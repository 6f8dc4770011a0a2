import ClusterCodec.Text.Scan
import ClusterCodec.Xml.Fault

/-!
# Reference — entity and character references in attribute values

- `entity?`: the five named characters.
- `characterAt`: the character with a number.
- `resolve`: an attribute value with its references replaced by what they stand for.

White space inside a value is left as it is written.
-/

namespace ClusterCodec
namespace Xml

open Text

/-- The named characters. -/
def entity? (name : List Char) : Option Char :=
  match String.ofList name with
  | "lt" => some '<'
  | "gt" => some '>'
  | "amp" => some '&'
  | "apos" => some '\x27'
  | "quot" => some '\x22'
  | _ => none

/-- The character with a code point. The null character is not permitted in a document. -/
def characterAt (code : Nat) : Except CharacterFault Char :=
  if code = 0 then .error (.notPermitted code)
  else if h : code.isValidChar then .ok (Char.ofNatAux code h)
  else .error (.notACharacter code)

/-- The number of a character, below `2 ^ 32` and without a sign. -/
def codeOf (base : Nat) (digits : List Char) : Except CharacterFault Nat :=
  match digits with
  | '+' :: _ | '-' :: _ => .error .sign
  | _ => (Numeral.readDigits base (1 <<< 32) digits).mapError .number

/-- The character that a reference with a number stands for; `x` marks hexadecimal. -/
def numberedCharacter (number : List Char) : Except CharacterFault Char := do
  let code ← match number with
    | 'x' :: digits => codeOf 16 digits
    | digits => codeOf 10 digits
  characterAt code

def byteLength (cs : List Char) : Nat :=
  (String.ofList cs).utf8ByteSize

/-- What the reference with the text `body` stands for; `first` is the place of its text. -/
def referent (first : Nat) (body : List Char) : Except Fault Char :=
  match body with
  | '#' :: number => (numberedCharacter number).mapError .character
  | _ => match entity? body with
    | some c => .ok c
    | none => .error (.unrecognizedEntity first (first + byteLength body) (String.ofList body))

def isReferenceChar (c : Char) : Bool :=
  c != '&' && c != ';'

/-- `resolve` for the rest of a value of `total` bytes, `offset` bytes after its start. -/
def resolveFrom (total offset : Nat) : List Char → Except Fault (List Char)
  | [] => .ok []
  | c :: cs =>
    if c = '&' then
      match _h : cs.dropWhile isReferenceChar with
      | ';' :: rest => do
        let body := cs.takeWhile isReferenceChar
        let referred ← referent (offset + 1) body
        let others ← resolveFrom total (offset + byteLength body + 2) rest
        return referred :: others
      | _ => .error (.unterminatedEntity offset total)
    else do
      let others ← resolveFrom total (offset + c.utf8Size) cs
      return c :: others
termination_by cs => cs.length
decreasing_by
  · have := length_dropWhile_le isReferenceChar cs
    rw [_h] at this
    simp only [List.length_cons] at *
    omega
  · simp

/-- An attribute value with its references replaced by what they stand for. -/
def resolve (value : String) : Except Fault String :=
  (resolveFrom value.utf8ByteSize 0 value.toList).map String.ofList

end Xml
end ClusterCodec

import ClusterCodec.Text.Scan

/-!
# Tag — the name and the attributes of a tag

- `isSpace`: the white space of markup.
- `attributesFrom`: the attributes of a tag, those that are not well formed left out.
- `Tag.ofContent`: a tag from the text between its angle brackets.

An attribute is left out if it has no value, if its value is not quoted, or if an earlier attribute
has its key. Reading goes on at the next blank.
-/

namespace ClusterCodec
namespace Xml

open Text

/-- The white space of markup. -/
def isSpace (c : Char) : Bool :=
  c == ' ' || c == '\t' || c == '\n' || c == '\r'

def isQuote (c : Char) : Bool :=
  c == '\x22' || c == '\x27'

def isKeyChar (c : Char) : Bool :=
  c != '=' && !isSpace c

/-- Passes a value that cannot be used: everything up to the next blank. -/
def skipValue (cs : List Char) : List Char :=
  cs.dropWhile (!isSpace ·)

theorem length_skipValue_le (cs : List Char) : (skipValue cs).length ≤ cs.length :=
  length_dropWhile_le _ cs

/-- What stands at the start of an attribute text: a usable attribute, or one that is left out. -/
inductive AttributeStep (size : Nat) where
  | finished
  | leftOut (seen : List (List Char)) (rest : { r : List Char // r.length < size })
  | found (key value : List Char) (rest : { r : List Char // r.length < size })

/-- The value after the equals sign of a key that is not `seen` yet. -/
def valueStep (seen : List (List Char)) (key : List Char) (cs : List Char) :
    AttributeStep (cs.length + 1) :=
  match _h : cs.dropWhile isSpace with
  | [] => .finished
  | quote :: body =>
    have bound : body.length < cs.length := length_lt_of_dropWhile_eq _h
    if isQuote quote then
      -- Behind a quote that is not closed nothing can be told apart, so reading ends.
      match _h' : body.dropWhile (· != quote) with
      | [] => .finished
      | _ :: rest => .found key (body.takeWhile (· != quote))
          ⟨rest, Nat.lt_succ_of_lt (Nat.lt_trans (length_lt_of_dropWhile_eq _h') bound)⟩
    else .leftOut (key :: seen)
      ⟨skipValue (quote :: body), Nat.lt_succ_of_le (Nat.le_trans (length_skipValue_le _) bound)⟩

/-- Reads one attribute. A key that was `seen` before is passed with its value. -/
def attributeStep (seen : List (List Char)) (cs : List Char) : AttributeStep cs.length :=
  match _h : cs.dropWhile isSpace with
  | [] => .finished
  | first :: more =>
    have bound : more.length < cs.length := length_lt_of_dropWhile_eq _h
    -- The first character belongs to the key even if it is an equals sign.
    let key := first :: more.takeWhile isKeyChar
    have behindKey : (more.dropWhile isKeyChar).length ≤ more.length := length_dropWhile_le _ more
    match _h' : (more.dropWhile isKeyChar).dropWhile isSpace with
    | '=' :: value =>
      have bound' : value.length + 1 < cs.length := Nat.lt_of_le_of_lt
        (Nat.succ_le_of_lt (Nat.lt_of_lt_of_le (length_lt_of_dropWhile_eq _h') behindKey)) bound
      -- The value of a repeated key ends at the next blank, quoted or not.
      if key ∈ seen then
        .leftOut seen
          ⟨skipValue value, Nat.lt_of_le_of_lt (length_skipValue_le _) (Nat.lt_of_succ_lt bound')⟩
      else match valueStep seen key value with
        | .finished => .finished
        | .leftOut seen' rest => .leftOut seen' ⟨rest.1, Nat.lt_trans rest.2 bound'⟩
        | .found key' value' rest => .found key' value' ⟨rest.1, Nat.lt_trans rest.2 bound'⟩
    -- A key without a value does not count as seen.
    | rest => .leftOut seen ⟨rest, _h' ▸
        Nat.lt_of_le_of_lt (Nat.le_trans (length_dropWhile_le isSpace _) behindKey) bound⟩

/-- The usable attributes in order, as keys with their values as written. -/
def attributesFrom (seen : List (List Char)) (cs : List Char) : List (String × String) :=
  match attributeStep seen cs with
  | .finished => []
  | .leftOut seen' rest => attributesFrom seen' rest.1
  | .found key value rest =>
    (String.ofList key, String.ofList value) :: attributesFrom (key :: seen) rest.1
termination_by cs.length
decreasing_by
  · exact rest.2
  · exact rest.2

structure Tag where
  name : String
  /-- Keys with their values as written, no key twice. -/
  attributes : List (String × String)
  deriving Repr, DecidableEq

/-- The tag with a text between its angle brackets: a name up to the first blank, then attributes. -/
def Tag.ofContent (content : List Char) : Tag where
  name := String.ofList (content.takeWhile (!isSpace ·))
  attributes := attributesFrom [] (content.dropWhile (!isSpace ·))

end Xml
end ClusterCodec

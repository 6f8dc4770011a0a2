import ClusterCodec.Emit.Shape
import ClusterCodec.Text.Quoted

/-!
# DefaultValue — declared defaults as literals

- `IntLiteral`: an integer as it is written in the generated source.
- `intLiteral?`: the literal for a declared default, if it denotes an integer of a type.
- `Leaf.defaultLiteral?`: the literal for the declared default of a leaf.
-/

namespace ClusterCodec

open Text

/-! ## Integers -/

/-- An integer literal: decimal, or the hexadecimal digits of the declaration. -/
inductive IntLiteral where
  | decimal (value : Int)
  | hexadecimal (digits : List Char)
  deriving Repr, DecidableEq

def IntLiteral.text : IntLiteral → String
  | decimal value => Numeral.signedDecimal value
  | hexadecimal digits => "0x" ++ String.ofList digits

/-- Splits off a minus sign and the blanks after it. -/
def splitSign : List Char → Bool × List Char
  | '-' :: rest => (true, trimBy isBlank rest)
  | cs => (false, cs)

/-- The integer that a declared default denotes: an optional minus sign, then a number below
`2 ^ 64`. -/
def denotedInt? (raw : List Char) : Option Int :=
  let (negative, digits) := splitSign raw
  (Numeral.readNat (String.ofList digits)).map fun (n : Nat) => if negative then -(n : Int) else n

/-- The literal for a declared default, if it denotes an integer of the type. A number with a
hexadecimal mark and no sign keeps its digits. -/
def intLiteral? (raw : List Char) (type : IntType) : Option IntLiteral :=
  (denotedInt? raw).bind fun value =>
    if type.contains value then
      -- After a minus sign there is no mark at the front, so the value is written in decimal.
      match Numeral.afterHexMark? raw with
      | some digits => some (.hexadecimal digits)
      | none => some (.decimal value)
    else none

/-! ## Leaves -/

/-- The words for the zero value of a type, in any letter case. -/
def zeroWords : List String := ["null", "none", "empty"]

def asciiLowered (s : String) : String :=
  String.ofList (s.toList.map Char.toLower)

/-- The declared default without surrounding blanks, unless it is empty or a word for zero. -/
def declaredDefault? (text : Option String) : Option String :=
  (text.map trim).filter fun raw => !raw.isEmpty && asciiLowered raw ∉ zeroWords

def boolLiteral? (raw : String) : Option String :=
  let word := asciiLowered raw
  if word = "true" ∨ word = "1" then some "true"
  else if word = "false" ∨ word = "0" then some "false"
  else none

/-- The literal for a declared default; none stands for the zero value. -/
def Leaf.defaultLiteral? (l : Leaf) (text : Option String) : Option String :=
  (declaredDefault? text).bind fun raw =>
    let integer (type : IntType) := (intLiteral? raw.toList type).map IntLiteral.text
    match l with
    | .int native _ => integer native
    | .bitmap b => integer b.baseType
    | .enum _ => integer .u8
    | .bool => boolLiteral? raw
    | .string => some (Quoted.quote raw ++ ".to_string()")
    | .bytes => some (Quoted.quote raw ++ ".as_bytes().to_vec()")

end ClusterCodec

import ClusterCodec.Emit.Snippet
import ClusterCodec.Schema.Declaration
import ClusterCodec.Schema.FirstOfEach

/-!
# EnumType — enum types with checked conversions

- `EnumType`: a type name, the integer type of the values, and the variants.
- `EnumDecl.distinctItems`, `EnumDecl.enumType`: the type for a declaration; of the items with one
  value the first counts.
- `EnumType.constructors`: the integer types that a checked constructor takes.
- `EnumType.text`: the source text.
-/

namespace ClusterCodec

open Text

structure EnumVariant where
  ident : String
  value : UInt64
  summary : String
  deriving Repr, DecidableEq

structure EnumType where
  name : String
  repr : IntType
  variants : List EnumVariant
  deriving Repr, DecidableEq

/-- The first item of each value. -/
def EnumDecl.distinctItems (e : EnumDecl) : List EnumItem :=
  keepFirst EnumItem.value e.items

def EnumDecl.enumType (e : EnumDecl) : EnumType :=
  { name := e.typeName
    repr := e.repr
    variants := e.distinctItems.map fun i => ⟨i.variant, i.value, i.summary⟩ }

namespace EnumType

/-- The values that the checked constructor for `repr` accepts, with the variants they give. -/
def arms (t : EnumType) : List (UInt64 × String) :=
  t.variants.map fun v => (v.value, v.ident)

/-- The argument types of the checked constructors. A byte is always accepted. -/
def constructors (t : EnumType) : List IntType :=
  if t.repr = .u8 then [.u8] else [.u8, t.repr]

/-! ## Text -/

def derives : String :=
  "#[derive(Debug, Clone, Copy, PartialEq, Eq, serde::Serialize, serde::Deserialize)]\n"

/-- The name of the checked constructor from the integers of a type. -/
def constructorName (type : IntType) : String :=
  "from_" ++ type.text

def constructorSignature (type : IntType) (argument : String) : String :=
  constructorName type ++ "(" ++ argument ++ ": " ++ type.text ++ ") -> Option<Self>"

def readerSignature (type : IntType) : String :=
  "to_" ++ type.text ++ "(self) -> " ++ type.text

def variantText (v : EnumVariant) : String :=
  summaryLine v.summary ++ v.ident ++ " = " ++ Numeral.decimal v.value.toNat ++ ",\n"

def armText : UInt64 × String → String
  | (value, ident) => Numeral.decimal value.toNat ++ " => Some(Self::" ++ ident ++ "),\n"

/-- The checked choice of a variant. -/
def matchText (t : EnumType) : String :=
  block "match value" (String.join (t.arms.map armText) ++ "_ => None,\n") ++ "\n"

/-- The implementation block, made of functions with empty lines between them. -/
def implText (name : String) (functions : List String) : String :=
  block ("impl " ++ name) ("\n".intercalate functions) ++ "\n"

/-- The conversion into an integer. -/
def intoText (name : String) (type : IntType) (body : String) : String :=
  block ("impl From<" ++ name ++ "> for " ++ type.text)
    (block ("fn from(val: " ++ name ++ ") -> Self") body ++ "\n") ++ "\n"

/-- The conversions between a type of bytes and its variants. -/
def byteFunctions (t : EnumType) : List String := [
  docLine "Convert from u8 value" ++ publicFunction (constructorSignature .u8 "value") t.matchText,
  docLine "Convert to u8 value" ++ publicFunction (readerSignature .u8) "self as u8\n"]

/-- The conversions between a type of wider integers and its variants. -/
def wideFunctions (t : EnumType) : List String :=
  let type := t.repr.text
  [ docLine ("Convert from u8 value (promoted to " ++ type ++ ")") ++
      publicFunction (constructorSignature .u8 "value")
        ("Self::" ++ constructorName t.repr ++ "(" ++ type ++ "::from(value))\n"),
    docLine ("Convert from " ++ type ++ " value") ++
      publicFunction (constructorSignature t.repr "value") t.matchText,
    docLine "Convert to u8 value (truncated if value > 255)" ++
      publicFunction (readerSignature .u8) "self as u8\n",
    docLine ("Convert to " ++ type ++ " value") ++
      publicFunction (readerSignature t.repr) ("self as " ++ type ++ "\n")]

/-- The type without variants: no integer converts to it, and no value of it exists. -/
def emptyText (name : String) : String :=
  derives ++ "pub enum " ++ name ++ " \x7b\x7d\n\n" ++
    implText name [
      docLine "Convert from u8 value" ++ publicFunction (constructorSignature .u8 "_value") "None\n",
      docLine "Convert to u8 value" ++ publicFunction (readerSignature .u8) "match self \x7b\x7d\n"] ++
    "\n" ++ intoText name .u8 "match val \x7b\x7d\n"

def text (t : EnumType) : String :=
  if t.variants.isEmpty then emptyText t.name
  else
    derives ++ "#[repr(" ++ t.repr.text ++ ")]\n" ++
      block ("pub enum " ++ t.name) (String.join (t.variants.map variantText)) ++ "\n\n" ++
      implText t.name (if t.repr = .u8 then t.byteFunctions else t.wideFunctions) ++ "\n" ++
      intoText t.name t.repr ("val as " ++ t.repr.text ++ "\n")

end EnumType
end ClusterCodec

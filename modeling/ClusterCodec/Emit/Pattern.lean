import ClusterCodec.Emit.EnumType
import ClusterCodec.Emit.Shape

/-!
# Pattern — reading a leaf out of a wire value

- `castTo`: an expression of the wire's widest integer type, narrowed where that is needed.
- `EnumDecl.convert`: the checked conversion of a wire integer.
- `Leaf.pattern`, `Leaf.matched`: the pattern that a wire value has to match, and the value then.
-/

namespace ClusterCodec

/-- An integer expression of 64 bits, cast unless the type has 64 bits without a sign. -/
def castTo (type : IntType) (expr : String) : String :=
  if type = .u64 then expr else expr ++ " as " ++ type.text

/-- The cast inside an optional value. -/
def mapCast (type : IntType) : String :=
  if type = .u64 then "" else ".map(|v| " ++ castTo type "v" ++ ")"

/-- The checked conversion of a 64-bit expression. -/
def EnumDecl.convert (e : EnumDecl) (expr : String) : String :=
  e.typeName ++ "::" ++ EnumType.constructorName e.repr ++ "(" ++ castTo e.repr expr ++ ")"

namespace Leaf

/-- The pattern of the wire value; it binds `v`. -/
def pattern : Leaf → String
  | int _ _ | enum _ | bitmap _ => "tlv::TlvItemValue::Int(v)"
  | bool => "tlv::TlvItemValue::Bool(v)"
  | string => "tlv::TlvItemValue::String(v)"
  | bytes => "tlv::TlvItemValue::OctetString(v)"

/-- The value under the pattern; for an enum it is optional. -/
def matched : Leaf → String
  | int native _ => castTo native "*v"
  | bool => "*v"
  | string | bytes => "v.clone()"
  | enum e => e.convert "*v"
  | bitmap b => castTo b.baseType "*v"

/-- The value under the pattern, optional for every leaf. -/
def matchedOption (l : Leaf) : String :=
  match l with
  | enum _ => l.matched
  | _ => "Some(" ++ l.matched ++ ")"

end Leaf
end ClusterCodec

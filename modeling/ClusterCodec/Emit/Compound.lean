import ClusterCodec.Emit.Decode
import ClusterCodec.Emit.Snippet

/-!
# Compound — function bodies that decode a compound value

- `Strictness`: whether a value of another kind is an error or gives nothing.
- `compoundBody`: the body that decodes the wire value `inp` into a struct.
-/

namespace ClusterCodec

open Text

inductive Strictness where
  /-- A mismatch is an error. -/
  | required
  /-- A mismatch gives no value. -/
  | optional
  deriving Repr, DecidableEq

namespace Strictness

/-- A successful result. -/
def success (s : Strictness) (value : String) : String :=
  match s with
  | required => "Ok(" ++ value ++ ")"
  | optional => "Ok(Some(" ++ value ++ "))"

/-- The result for a value of another kind. -/
def mismatch (s : Strictness) (message : String) : String :=
  match s with
  | required => failure message
  | optional => "Ok(None)"

end Strictness

/-- The name of the item that a compound value is decoded from. -/
def rootItem : String := "item"

/-- The fields of a compound value, read from its item. -/
def Resolved.compoundInits (r : Resolved) (owner : Option String) (fields : List Field) : Inits :=
  (r.slots owner fields).inits (.given rootItem) 0

/-- The body that decodes `inp` into the type. -/
def compoundBody (typeName : String) (inits : Inits) (strictness : Strictness) : String :=
  ifElse "let tlv::TlvItemValue::List(_fields) = inp"
    (inits.itemLine rootItem 0 "inp" ++
      strictness.success (block typeName inits.text) ++ "\n")
    (strictness.mismatch "Expected struct fields" ++ "\n")

end ClusterCodec

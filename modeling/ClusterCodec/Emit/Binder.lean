import ClusterCodec.Text.Numeral

/-!
# Binder — names that generated expressions bind

- `Binder`: a name made of a role and a depth.
- `Place`: a value is reached through a binder or through an expression of the caller.
-/

namespace ClusterCodec

inductive BinderRole where
  /-- The wire value of a nested struct. -/
  | nestedValue
  /-- The wire item of a nested struct. -/
  | nestedItem
  /-- The items of a list. -/
  | list
  /-- An item of a list. -/
  | element
  /-- A value to encode. -/
  | present
  /-- The encoded fields of a struct. -/
  | encoded
  deriving Repr, DecidableEq

def BinderRole.text : BinderRole → String
  | nestedValue => "nested_tlv_"
  | nestedItem => "nested_item_"
  | list => "list_"
  | element => "e_"
  | present => "x_"
  | encoded => "fields_"

structure Binder where
  role : BinderRole
  depth : Nat
  deriving Repr, DecidableEq

def Binder.text (b : Binder) : String :=
  b.role.text ++ Text.Numeral.decimal b.depth

inductive Place where
  | given (expression : String)
  | bound (binder : Binder)
  deriving Repr, DecidableEq

def Place.text : Place → String
  | given expression => expression
  | bound binder => binder.text

end ClusterCodec

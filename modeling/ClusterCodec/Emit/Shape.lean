import ClusterCodec.Resolve.Resolved

/-!
# Shape — how the generated source represents a value

- `Leaf`: a value that is no struct; `Leaf.ofScalar` reads the type table.
- `DeclaredStruct`: a struct that the cluster declares under its name.
- `Shape`: a leaf or a declared struct.
- `Omission`: why a field has no representation.
- `Resolved.fieldShape`: the shape of a field's value, or of the elements of a list field.
-/

namespace ClusterCodec

/-! ## Leaves -/

inductive Leaf where
  | int (native : IntType) (wire : WireTag)
  | bool
  | string
  | bytes
  | enum (decl : EnumDecl)
  | bitmap (decl : BitmapDecl)
  deriving Repr, DecidableEq

namespace Leaf

/-- The byte that stands for what is not known: a name outside the type table, an enum or a bitmap
that the cluster does not declare. -/
def fallback : Leaf :=
  .int .u8 fallbackTag

def ofScalar (name : String) : Leaf :=
  match typeRow? name with
  | some ⟨_, tag, some (.int native)⟩ => .int native tag
  | some ⟨_, _, some .bool⟩ => .bool
  | some ⟨_, _, some .string⟩ => .string
  | some ⟨_, _, some .bytes⟩ => .bytes
  | some ⟨_, _, none⟩ => fallback
  | none => fallback

/-- The type in the generated source. -/
def typeText : Leaf → String
  | .int native _ => native.text
  | .bool => Scalar.text .bool
  | .string => Scalar.text .string
  | .bytes => Scalar.text .bytes
  | .enum e => e.typeName
  | .bitmap b => b.typeName

def wire : Leaf → WireTag
  | .int _ tag => tag
  | .bool => .bool
  | .string => .string
  | .bytes => .octetString
  | .enum _ => .uint8
  | .bitmap b => b.wireTag

end Leaf

/-! ## Shapes -/

/-- A struct that the cluster declares under its name. -/
structure DeclaredStruct (r : Resolved) where
  decl : StructDecl
  declared : r.cluster.structs.get? decl.name = some decl

inductive Shape (r : Resolved) where
  | leaf (leaf : Leaf)
  | struct (target : DeclaredStruct r)

namespace Shape

variable {r : Resolved}

def typeText : Shape r → String
  | .leaf l => l.typeText
  | .struct t => t.decl.typeName

def wire : Shape r → WireTag
  | .leaf l => l.wire
  | .struct _ => .structAnon

end Shape

/-! ## Fields -/

/-- Why a field has no representation. -/
inductive Omission where
  /-- The struct is declared in another cluster. -/
  | otherCluster (name : String)
  /-- The struct leads back to the owner of the field. -/
  | recursive (name : String)
  | missingEntryType
  | nestedList
  deriving Repr, DecidableEq

def Omission.message : Omission → String
  | .otherCluster name => name ++ " is not declared in this cluster"
  | .recursive name => name ++ " refers back to its owner"
  | .missingEntryType => "list without entry type"
  | .nestedList => "nested list"

namespace Resolved

variable (r : Resolved)

def declared {name : String} {s : StructDecl} (h : r.cluster.structs.get? name = some s) :
    DeclaredStruct r :=
  ⟨s, by
    have named : s.name = name := (SymbolTable.get?_eq_some h).2
    rw [named]
    exact h⟩

/-- The shape of what a type refers to, seen from the struct `owner` if there is one. -/
def shape (owner : Option String) : TypeRef → Except Omission (Shape r)
  | .scalar name => .ok (.leaf (.ofScalar name))
  | .enum name => .ok (.leaf (((r.cluster.enums.get? name).map Leaf.enum).getD .fallback))
  | .bitmap name => .ok (.leaf (((r.cluster.bitmaps.get? name).map Leaf.bitmap).getD .fallback))
  | .struct name =>
    match h : r.cluster.structs.get? name with
    | none => .error (.otherCluster name)
    | some _ =>
      -- Without an owner no reference closes a cycle.
      if owner.any (r.isRecursive · name) then .error (.recursive name)
      else .ok (.struct (r.declared h))
  | .list _ => .error .nestedList

/-- The shape of the value of a field, or of the elements of a list field. -/
def fieldShape (owner : Option String) (f : Field) : Except Omission (Shape r) :=
  match f.typeRef with
  | .list none => .error .missingEntryType
  | .list (some entry) => r.shape owner entry
  | single => r.shape owner single

end Resolved
end ClusterCodec

import ClusterCodec.Name.Identifier
import ClusterCodec.Wire.TypeTable

/-!
# Field — fields and references to types

- `TypeRef`: what a type name refers to, told by its ending.
- `Field`: a value with a context tag, a name and a type name.
- `Field.typeRef`, `Field.structName?`: what the type of a field refers to.
-/

namespace ClusterCodec

def enumSuffix : String := "Enum"
def bitmapSuffix : String := "Bitmap"
def structSuffix : String := "Struct"

def hasSuffix (suffix name : String) : Bool :=
  suffix.toList.isSuffixOf name.toList

/-- What a type name refers to. A list may lack the type of its elements. -/
inductive TypeRef where
  | scalar (name : String)
  | enum (name : String)
  | bitmap (name : String)
  | struct (name : String)
  | list (entry : Option TypeRef)
  deriving Repr

namespace TypeRef

/-- The ending of a type name tells its category. -/
def classify (name : String) : TypeRef :=
  if name = listType then .list none
  else if hasSuffix enumSuffix name then .enum name
  else if hasSuffix bitmapSuffix name then .bitmap name
  else if hasSuffix structSuffix name then .struct name
  else .scalar name

/-- The struct that is referred to, directly or as the element of a list. -/
def structName? : TypeRef → Option String
  | .struct name => some name
  | .list (some entry) => entry.structName?
  | _ => none

end TypeRef

/-- A field of a struct, command, response or event. -/
structure Field where
  /-- The context tag on the wire. -/
  id : UInt8
  name : String
  typeName : String
  /-- The type of the elements of a list. -/
  entryType : Option String := none
  /-- The declared default, as written. -/
  defaultText : Option String := none
  nullable : Bool := false
  mandatory : Bool := false
  deriving Repr, DecidableEq

namespace Field

def isList (f : Field) : Bool :=
  f.typeName == listType

def typeRef (f : Field) : TypeRef :=
  if f.isList then .list (f.entryType.map TypeRef.classify) else .classify f.typeName

def structName? (f : Field) : Option String :=
  f.typeRef.structName?

/-- The identifier of the field. -/
def ident (f : Field) : String :=
  Name.Identifier.ofField f.name

end Field
end ClusterCodec

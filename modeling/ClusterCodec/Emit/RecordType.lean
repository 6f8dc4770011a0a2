import ClusterCodec.Emit.Member
import ClusterCodec.Text.Indent

/-!
# RecordType — struct types with optional fields

- `RecordType`: a type name and its fields.
- `Resolved.recordType`: the type for a list of fields; one field for each kept member.
- `RecordType.text`: the source text.
-/

namespace ClusterCodec

open Text

structure RecordField where
  ident : String
  /-- The type of the value when it is present. -/
  typeText : String
  hexHelper : Option HexHelper
  deriving Repr, DecidableEq

structure RecordType where
  name : String
  fields : List RecordField
  deriving Repr, DecidableEq

def Member.recordField {r : Resolved} (m : Member r) : RecordField :=
  ⟨m.ident, m.typeText, m.hexHelper?⟩

/-- The type named `name` for the fields of `owner`. -/
def Resolved.recordType (r : Resolved) (name : String) (owner : Option String)
    (fields : List Field) : RecordType :=
  ⟨name, (r.members owner fields).map Member.recordField⟩

def Resolved.structType (r : Resolved) (s : StructDecl) : RecordType :=
  r.recordType s.typeName (some s.name) s.fields

/-! ## Text -/

def optionText (type : String) : String :=
  "Option<" ++ type ++ ">"

def RecordField.text (f : RecordField) : String :=
  (match f.hexHelper with
    | some helper => "#[serde(serialize_with = " ++ "\"" ++ helper.text ++ "\"" ++ ")]\n"
    | none => "") ++
  "pub " ++ f.ident ++ ": " ++ optionText f.typeText ++ ",\n"

def RecordType.text (t : RecordType) : String :=
  "#[derive(Debug, Clone, Default, serde::Serialize)]\n" ++
    block ("pub struct " ++ t.name) (String.join (t.fields.map RecordField.text)) ++ "\n"

end ClusterCodec

import ClusterCodec.Emit.Payload
import ClusterCodec.Emit.Settings

/-!
# AttributeDecoder — functions that decode an attribute

- `DecoderKind`: what the decoder returns.
- `Resolved.decoderKind?`: none when the type of the attribute is a struct of another cluster.
- `AttributeDecoder`, `Resolved.attributeDecoder?`: the decoder of an attribute.
- `AttributeDecoder.text`: the source text.
-/

namespace ClusterCodec

open Text

inductive DecoderKind (r : Resolved) where
  /-- A value, or nothing on a mismatch. -/
  | optional (shape : Shape r)
  /-- A value; a mismatch is an error. -/
  | required (shape : Shape r)
  /-- The elements that match. -/
  | list (shape : Shape r)
  /-- A function that always fails. -/
  | stub (reason : Omission)

/-- The type of a decoded value. -/
def DecoderKind.typeText {r : Resolved} : DecoderKind r → String
  | optional shape => optionText shape.typeText
  | required shape => shape.typeText
  | list shape => "Vec<" ++ shape.typeText ++ ">"
  | stub _ => "()"

structure AttributeDecoder (r : Resolved) where
  attr : Attribute
  kind : DecoderKind r

namespace Resolved

variable (r : Resolved)

def decoderKind? (s : Settings) (a : Attribute) : Option (DecoderKind r) :=
  match r.fieldShape none a.field with
  | .ok shape =>
    if a.field.isList then some (.list shape)
    else if s.strictAttributes && !a.field.nullable then some (.required shape)
    else some (.optional shape)
  | .error .missingEntryType => some (.stub .missingEntryType)
  | .error .nestedList => some (.stub .nestedList)
  | .error (.otherCluster _) => none
  | .error (.recursive _) => none

def attributeDecoder? (s : Settings) (a : Attribute) : Option (AttributeDecoder r) :=
  (r.decoderKind? s a).map (⟨a, ·⟩)

end Resolved

/-! ## Text -/

/-- The body that decodes a leaf from `inp`. -/
def Leaf.singleBody (l : Leaf) (strictness : Strictness) : String :=
  let found := match l, strictness with
    | .enum _, .required => l.matched ++ ".ok_or_else(|| anyhow::anyhow!(\"Invalid enum value\"))"
    | .enum _, .optional => "Ok(" ++ l.matched ++ ")"
    | _, _ => strictness.success l.matched
  ifElse ("let " ++ l.pattern ++ " = inp") (found ++ "\n")
    (strictness.mismatch ("Expected " ++ l.wire.text) ++ "\n")

namespace Shape

variable {r : Resolved}

def singleBody (strictness : Strictness) : Shape r → String
  | .leaf l => l.singleBody strictness
  | .struct t =>
    compoundBody t.decl.typeName (r.compoundInits (some t.decl.name) t.decl.fields) strictness

def listBody (shape : Shape r) : String :=
  ifElse "let tlv::TlvItemValue::List(list) = inp"
    ("Ok(list\n" ++
      indent 1 (".iter()\n" ++ ((r.layout shape).elements 0).text ++ ".collect())\n"))
    "Ok(Vec::new())\n"

end Shape

namespace AttributeDecoder

variable {r : Resolved}

def body (d : AttributeDecoder r) : String :=
  match d.kind with
  | .optional shape => shape.singleBody .optional
  | .required shape => shape.singleBody .required
  | .list shape => shape.listBody
  | .stub reason => failure (Quoted.asciiEscape d.attr.name ++ ": " ++ reason.message) ++ "\n"

/-- What the documentation of a stub adds. -/
def note (d : AttributeDecoder r) : String :=
  match d.kind with
  | .stub reason => "///\n" ++ docLine ("Not decodable: " ++ reason.message ++ ".")
  | _ => ""

def argument (d : AttributeDecoder r) : String :=
  match d.kind with
  | .stub _ => "_inp"
  | _ => "inp"

def text (d : AttributeDecoder r) : String :=
  docLine ("Decode " ++ d.attr.name ++ " attribute (" ++ d.attr.id ++ ")") ++ d.note ++
    publicFunction (decoderSignature d.attr.decoder d.argument d.kind.typeText) d.body

end AttributeDecoder
end ClusterCodec

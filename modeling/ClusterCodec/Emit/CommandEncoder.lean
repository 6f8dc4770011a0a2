import ClusterCodec.Emit.Parameter
import ClusterCodec.Emit.RecordType
import ClusterCodec.Emit.Settings
import ClusterCodec.Emit.Snippet

/-!
# CommandEncoder — functions that encode a command

- `CommandEncoder`: the parameters, and the struct that holds them when they are many.
- `Resolved.commandEncoder?`: none for a command without fields.
- `CommandEncoder.text`: the source text.
-/

namespace ClusterCodec

open Text

structure CommandParam where
  ident : String
  typeText : String
  id : UInt8
  encoded : Parameter

structure CommandEncoder where
  name : String
  /-- The id as written. -/
  id : String
  function : String
  /-- The struct that holds the parameters, if they are not passed one by one. -/
  paramsType : Option String
  params : List CommandParam

namespace Resolved

variable (r : Resolved)

/-- Whether the encoder takes its parameters in a struct. -/
def usesParamsType (s : Settings) (c : Command) : Bool :=
  s.maxPositionalParams < (r.members none c.fields).length

def commandParam (access : String) (m : Member r) : CommandParam :=
  { ident := m.ident
    typeText := if m.field.nullable then optionText m.typeText else m.typeText
    id := m.field.id
    encoded := .of m.field (r.layout m.shape) (access ++ m.ident) }

/-- The encoder of a command that has fields. -/
def commandEncoder? (s : Settings) (c : Command) : Option CommandEncoder :=
  if c.fields.isEmpty then none
  else
    let many := r.usesParamsType s c
    some
      { name := c.name
        id := c.id
        function := c.encoder
        paramsType := if many then some c.paramsType else none
        params := (r.members none c.fields).map (r.commandParam (if many then "params." else "")) }

end Resolved

/-! ## Text -/

namespace CommandParam

def declaration (p : CommandParam) : String :=
  p.ident ++ ": " ++ p.typeText

def text (p : CommandParam) : String :=
  "(" ++ Numeral.decimal p.id.toNat ++ ", " ++ p.encoded.text ++ ").into(),\n"

end CommandParam

namespace CommandEncoder

/-- The type that holds the parameters, with the empty line after it. -/
def paramsTypeText (e : CommandEncoder) : String :=
  match e.paramsType with
  | none => ""
  | some name =>
    docLine ("Parameters for " ++ e.name ++ " command") ++ "#[derive(Debug, Clone)]\n" ++
      block ("pub struct " ++ name)
        (String.join (e.params.map fun p => "pub " ++ p.declaration ++ ",\n")) ++ "\n\n"

def signature (e : CommandEncoder) : String :=
  match e.paramsType with
  | none => ", ".intercalate (e.params.map CommandParam.declaration)
  | some name => "params: " ++ name

def body (e : CommandEncoder) : String :=
  block "let tlv = tlv::TlvItemEnc"
      ("tag: 0,\nvalue: " ++
        encodedText Container.invisible.text
          ("vec![\n" ++ indent 1 (String.join (e.params.map CommandParam.text)) ++ "]") ++ ",\n") ++
    ";\nOk(tlv.encode()?)\n"

def text (e : CommandEncoder) : String :=
  e.paramsTypeText ++ docLine ("Encode " ++ e.name ++ " command (" ++ e.id ++ ")") ++
    publicFunction (e.function ++ "(" ++ e.signature ++ ") -> anyhow::Result<Vec<u8>>") e.body

end CommandEncoder
end ClusterCodec

import ClusterCodec.Emit.Compound
import ClusterCodec.Emit.RecordType

/-!
# Payload — types and decoders of responses and events

- `Payload`: a type for the fields and a function that decodes it.
- `Resolved.responsePayload?`, `Resolved.eventPayload?`: none without fields.
- `Payload.text`: the source text.
-/

namespace ClusterCodec

open Text

structure Payload where
  type : RecordType
  decoder : String
  /-- The documentation of the decoder. -/
  doc : String
  inits : Inits

namespace Resolved

variable (r : Resolved)

/-- The payload for a list of fields, unless the list is empty. -/
def payload? (typeName decoder doc : String) (fields : List Field) : Option Payload :=
  if fields.isEmpty then none
  else some
    { type := r.recordType typeName none fields
      decoder, doc
      inits := r.compoundInits none fields }

def responsePayload? (p : Response) : Option Payload :=
  r.payload? p.typeName p.decoder
    ("Decode " ++ p.name ++ " command response (" ++ p.id ++ ")") p.fields

def eventPayload? (e : Event) : Option Payload :=
  r.payload? e.typeName e.decoder
    ("Decode " ++ e.name ++ " event (" ++ e.id ++ ", priority: " ++ e.priority ++ ")") e.fields

end Resolved

/-- The head of a function that decodes the wire value `inp`. -/
def decoderSignature (name argument result : String) : String :=
  name ++ "(" ++ argument ++ ": &tlv::TlvItemValue) -> anyhow::Result<" ++ result ++ ">"

def Payload.text (p : Payload) : String :=
  p.type.text ++ "\n" ++ docLine p.doc ++
    publicFunction (decoderSignature p.decoder "inp" p.type.name)
      (compoundBody p.type.name p.inits .required)

end ClusterCodec

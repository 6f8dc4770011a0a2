import ClusterCodec.Emit.AttributeDispatch
import ClusterCodec.Emit.BitmapType
import ClusterCodec.Emit.CommandEncoder
import ClusterCodec.Emit.EnumType
import ClusterCodec.Module.Item

/-!
# Definition — the code of one item

- `Definition`: what is generated for an item.
- `Definition.typeNames`, `Definition.functionNames`: the names that it defines.
- `Resolved.definition?`: none for an item without code of its own.
- `Definition.text`: the source text.
-/

namespace ClusterCodec

inductive Definition (r : Resolved) where
  | enum (type : EnumType)
  | bitmap (type : BitmapType)
  | struct (type : RecordType)
  | command (encoder : CommandEncoder)
  | attr (decoder : AttributeDecoder r)
  | payload (payload : Payload)

namespace Definition

variable {r : Resolved}

/-- The types and modules that the code defines. -/
def typeNames : Definition r → List String
  | enum t => [t.name]
  | bitmap t => [t.name, t.moduleName]
  | struct t => [t.name]
  | command e => e.paramsType.toList
  | attr _ => []
  | payload p => [p.type.name]

/-- The functions that the code defines. -/
def functionNames : Definition r → List String
  | enum _ | bitmap _ | struct _ => []
  | command e => [e.function]
  | attr d => [d.attr.decoder]
  | payload p => [p.decoder]

def text : Definition r → String
  | enum t => t.text
  | bitmap t => t.text
  | struct t => t.text
  | command e => e.text
  | attr d => d.text
  | payload p => p.text

end Definition

/-- The code of an item. Commands, responses and events without fields have none, nor has an
attribute whose type belongs to another cluster. -/
def Resolved.definition? (r : Resolved) (s : Settings) : Item → Option (Definition r)
  | .enum e => some (.enum e.enumType)
  | .bitmap b => some (.bitmap b.bitmapType)
  | .struct d => some (.struct (r.structType d))
  | .command c => (r.commandEncoder? s c).map .command
  | .attr a => (r.attributeDecoder? s a).map .attr
  | .response p => (r.responsePayload? p).map .payload
  | .event e => (r.eventPayload? e).map .payload

end ClusterCodec

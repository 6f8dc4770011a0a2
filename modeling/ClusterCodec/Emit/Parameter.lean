import ClusterCodec.Emit.DefaultValue
import ClusterCodec.Emit.Encode

/-!
# Parameter — encoding the parameters of a command

- `Parameter`: a parameter passes its value on, or stands for an optional value.
- `Parameter.of`: the encoding of a field as a parameter.
- `Parameter.text`: the source text.

An optional leaf falls back to its declared default or to the zero value of its type; an optional
struct or list falls back to an empty compound.
-/

namespace ClusterCodec

open Text

inductive Parameter where
  | plain (encoded : Encode)
  /-- A value that is bound when present, and an empty compound otherwise. -/
  | compound (source : String) (present : Binder) (encoded : Encode) (empty : Container)
  | defaulted (leaf : Leaf) (source : String) (literal : Option String)

/-- The encoding of the parameter that `source` names, whose value or elements have the layout. -/
def Parameter.of (f : Field) (layout : Layout) (source : String) : Parameter :=
  let present : Binder := ⟨.present, 0⟩
  if !f.nullable then .plain (layout.encodeField f (.owned source) 0)
  -- The binder of the optional value takes depth 0, so what is bound inside starts at 1.
  else if f.isList then
    .compound source present (layout.encodeList (.boundTo present) 1) .anonymous
  else match layout with
    | .leaf l => .defaulted l source (l.defaultLiteral? f.defaultText)
    | .record decl slots =>
      .compound source present ((Layout.record decl slots).encode (.boundTo present) 1 .invisible)
        .invisible

/-! ## Text -/

/-- An optional value, or the literal instead. -/
def orLiteral (source : String) : Option String → String
  | some literal => source ++ ".unwrap_or(" ++ literal ++ ")"
  | none => source ++ ".unwrap_or_default()"

/-- An optional value, or the value of the expression instead. -/
def orComputed (source : String) : Option String → String
  | some literal => source ++ ".unwrap_or_else(|| " ++ literal ++ ")"
  | none => source ++ ".unwrap_or_default()"

def Leaf.encodeOr (source : String) (literal : Option String) : Leaf → String
  | .int native wire => encodedText wire.text (wireCast (orLiteral source literal) native wire)
  | .bool => encodedText WireTag.bool.text (orLiteral source literal)
  | .string => encodedText WireTag.string.text (orComputed source literal)
  | .bytes => encodedText WireTag.octetString.text (orComputed source literal)
  | .enum _ =>
    encodedText WireTag.uint8.text
      (source ++ ".map(|e| e.to_u8()).unwrap_or(" ++ literal.getD "0" ++ ")")
  | .bitmap b => encodedText b.wireTag.text (orLiteral source literal)

def Parameter.text : Parameter → String
  | plain encoded => encoded.text
  | compound source present encoded empty =>
    block ("match &" ++ source)
      ("Some(" ++ present.text ++ ") => " ++ encoded.text ++ ",\nNone => " ++
        encodedText empty.text emptyVector ++ ",\n")
  | defaulted leaf source literal => leaf.encodeOr source literal

end ClusterCodec

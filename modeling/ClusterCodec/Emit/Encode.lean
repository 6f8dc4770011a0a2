import ClusterCodec.Emit.Binder
import ClusterCodec.Emit.Layout
import ClusterCodec.Text.Indent

/-!
# Encode — expressions that turn values into wire values

- `Value`: where a value is held, and whether behind a reference.
- `Encode`, `Pushes`: the expressions, as data.
- `Layout.encode`, `Layout.encodeList`, `Slots.pushes`: the expressions for a layout. A nested scope
  gets a higher depth, so that its binders differ from the enclosing ones.
- `Encode.text`, `Pushes.text`: the source text. It starts at column zero; later lines are indented
  relative to the line that the text is put into.
-/

namespace ClusterCodec

open Text

structure Value where
  place : Place
  /-- Whether the place holds a reference to the value. -/
  byReference : Bool
  deriving Repr, DecidableEq

namespace Value

def owned (expr : String) : Value := ⟨.given expr, false⟩
def borrowed (expr : String) : Value := ⟨.given expr, true⟩
def boundTo (b : Binder) : Value := ⟨.bound b, true⟩

/-- The value of a type that is copied. -/
def copied (v : Value) : String :=
  if v.byReference then "*" ++ v.place.text else v.place.text

/-- The value of a type that is cloned. -/
def cloned (v : Value) : String :=
  if v.byReference then v.place.text ++ ".clone()" else v.place.text

end Value

/-- The compound that holds the fields of a struct. -/
inductive Container where
  /-- The fields stand in the place of the value. -/
  | invisible
  /-- The fields are an element of a list. -/
  | anonymous
  deriving Repr, DecidableEq

def Container.text : Container → String
  | invisible => "StructInvisible"
  | anonymous => "StructAnon"

mutual

inductive Encode where
  | leaf (leaf : Leaf) (value : Value)
  | record (container : Container) (fields : Binder) (pushes : Pushes)
  | list (value : Value) (element : Binder) (encoded : Encode)

/-- Statements that put the present fields of a struct at the end of a vector. -/
inductive Pushes where
  | nil
  | cons (owner : Place) (ident : String) (present : Binder) (vector : Place) (id : UInt8)
      (encoded : Encode) (rest : Pushes)

end

/-! ## Construction -/

mutual

def Layout.encode (value : Value) (depth : Nat) (container : Container) : Layout → Encode
  | .leaf l => .leaf l value
  | .record _ slots =>
    .record container ⟨.encoded, depth⟩ (slots.pushes value.place (.bound ⟨.encoded, depth⟩) depth)

def Slots.pushes (owner vector : Place) (depth : Nat) : Slots → Pushes
  | .nil => .nil
  | .cons f layout rest =>
    -- An element of a list has a binder of the same kind as the list, hence the next depth.
    .cons owner f.ident ⟨.present, depth⟩ vector f.id
      (if f.isList then
        .list (.boundTo ⟨.present, depth⟩) ⟨.present, depth + 1⟩
          (layout.encode (.boundTo ⟨.present, depth + 1⟩) (depth + 2) .anonymous)
      else layout.encode (.boundTo ⟨.present, depth⟩) (depth + 1) .invisible)
      (rest.pushes owner vector depth)

end

/-- The expression for a list whose elements have the layout. -/
def Layout.encodeList (value : Value) (depth : Nat) (layout : Layout) : Encode :=
  .list value ⟨.present, depth⟩
    (layout.encode (.boundTo ⟨.present, depth⟩) (depth + 1) .anonymous)

/-- The expression for the value of a field. -/
def Layout.encodeField (f : Field) (value : Value) (depth : Nat) (layout : Layout) : Encode :=
  if f.isList then layout.encodeList value depth else layout.encode value depth .invisible

/-! ## Text -/

/-- A wire value of a kind. -/
def encodedText (kind argument : String) : String :=
  "tlv::TlvItemValueEnc::" ++ kind ++ "(" ++ argument ++ ")"

def emptyVector : String := "Vec::new()"

/-- The cast to the integer type of an encoding, where it differs from the type of the value. -/
def wireCast (expr : String) (type : IntType) (wire : WireTag) : String :=
  match wire.int? with
  | some wireType => if wireType = type then expr else expr ++ " as " ++ wireType.text
  | none => expr

def Leaf.encodeText (v : Value) : Leaf → String
  | .int native wire => encodedText wire.text (wireCast v.copied native wire)
  | .bool => encodedText WireTag.bool.text v.copied
  | .string => encodedText WireTag.string.text v.cloned
  | .bytes => encodedText WireTag.octetString.text v.cloned
  | .enum _ => encodedText WireTag.uint8.text (v.place.text ++ ".to_u8()")
  | .bitmap b => encodedText b.wireTag.text v.copied

/-- The tag of the elements of a list. -/
def elementTag : Nat := 0

def Pushes.isEmpty : Pushes → Bool
  | .nil => true
  | .cons _ _ _ _ _ _ _ => false

mutual

def Encode.text : Encode → String
  | .leaf l value => l.encodeText value
  | .record container fields pushes =>
    if pushes.isEmpty then encodedText container.text emptyVector
    else
      encodedText container.text ("\x7b\n" ++
        indent 1 ("let mut " ++ fields.text ++ ": Vec<tlv::TlvItemEnc> = " ++ emptyVector ++ ";\n" ++
          pushes.text ++ fields.text ++ "\n") ++
        "\x7d")
  | .list value element encoded =>
    encodedText WireTag.structAnon.text ("\n" ++
      indent 1 (value.place.text ++ "\n" ++
        indent 1 (".iter()\n.map(|" ++ element.text ++ "| (" ++ Numeral.decimal elementTag ++ ", " ++
          encoded.text ++ ").into())\n.collect(),\n")))

def Pushes.text : Pushes → String
  | .nil => ""
  | .cons owner ident present vector id encoded rest =>
    block ("if let Some(" ++ present.text ++ ") = &" ++ owner.text ++ "." ++ ident)
        (vector.text ++ ".push((" ++ Numeral.decimal id.toNat ++ ", " ++ encoded.text ++
          ").into());\n") ++
      "\n" ++ rest.text

end

end ClusterCodec

import ClusterCodec.Emit.Binder
import ClusterCodec.Emit.Layout
import ClusterCodec.Emit.Pattern
import ClusterCodec.Text.Indent

/-!
# Decode — expressions that read fields out of a wire item

- `Decode`, `Elements`, `Inits`: the expressions, as data.
- `Layout.decode`, `Layout.elements`, `Slots.inits`: the expressions for a layout. A nested scope gets
  the next depth, so that its binders differ from the enclosing ones.
- `Decode.text`, `Elements.text`, `Inits.text`: the source text. It starts at column zero; later lines
  are indented relative to the line that the text is put into.
-/

namespace ClusterCodec

open Text

mutual

/-- An optional value read from the tag `id` of an item. -/
inductive Decode where
  | leaf (leaf : Leaf) (item : Place) (id : UInt8)
  | nested (decl : StructDecl) (item : Place) (id : UInt8) (value nestedItem : Binder)
      (inits : Inits)
  | list (item : Place) (id : UInt8) (list : Binder) (elements : Elements)

/-- Steps of an iterator that turn items into values and drop those of another shape. -/
inductive Elements where
  | leaf (leaf : Leaf) (element : Binder)
  | records (decl : StructDecl) (element : Binder) (inits : Inits)

/-- The fields of a struct literal. -/
inductive Inits where
  | nil
  | cons (ident : String) (value : Decode) (rest : Inits)

end

/-! ## Construction -/

mutual

def Layout.decode (item : Place) (id : UInt8) (depth : Nat) : Layout → Decode
  | .leaf l => .leaf l item id
  | .record decl slots =>
    .nested decl item id ⟨.nestedValue, depth⟩ ⟨.nestedItem, depth⟩
      (slots.inits (.bound ⟨.nestedItem, depth⟩) (depth + 1))

def Layout.elements (depth : Nat) : Layout → Elements
  | .leaf l => .leaf l ⟨.element, depth⟩
  | .record decl slots =>
    .records decl ⟨.element, depth⟩ (slots.inits (.bound ⟨.element, depth⟩) (depth + 1))

def Slots.inits (item : Place) (depth : Nat) : Slots → Inits
  | .nil => .nil
  | .cons f layout rest =>
    -- The list and its elements have binders of two kinds, so they may share the depth.
    .cons f.ident
      (if f.isList then .list item f.id ⟨.list, depth⟩ (layout.elements depth)
        else layout.decode item f.id depth)
      (rest.inits item depth)

end

/-! ## Text -/

def tagPath (id : UInt8) : String :=
  "&[" ++ Numeral.decimal id.toNat ++ "]"

/-- A leaf read from a tag of an item. -/
def Leaf.readText (l : Leaf) (item : Place) (id : UInt8) : String :=
  let call (method : String) := item.text ++ "." ++ method ++ "(" ++ tagPath id ++ ")"
  match l with
  | .int native _ => call "get_int" ++ mapCast native
  | .bool => call "get_bool"
  | .string => call "get_string_owned"
  | .bytes => call "get_octet_string_owned"
  | .enum e => call "get_int" ++ ".and_then(|v| " ++ e.convert "v" ++ ")"
  | .bitmap b => call "get_int" ++ mapCast b.baseType

/-- The test for a compound value. -/
def isCompoundText (value : String) : String :=
  "matches!(" ++ value ++ ", tlv::TlvItemValue::List(_))"

/-- A wire item made of a tag and a value. -/
def itemText (tag : Nat) (value : String) : String :=
  "tlv::TlvItem " ++ inBraces ("tag: " ++ Numeral.decimal tag ++ ", value: " ++ value ++ ".clone()")

def Inits.isEmpty : Inits → Bool
  | .nil => true
  | .cons _ _ _ => false

/-- The line that makes the item of a nested struct; a struct without fields needs none. -/
def Inits.itemLine (item : String) (tag : Nat) (value : String) (inits : Inits) : String :=
  if inits.isEmpty then "" else "let " ++ item ++ " = " ++ itemText tag value ++ ";\n"

mutual

def Decode.text : Decode → String
  | .leaf l item id => l.readText item id
  | .nested decl item id value nestedItem inits =>
    block ("match " ++ item.text ++ ".get(" ++ tagPath id ++ ")")
      (block ("Some(" ++ value.text ++ ") if " ++ isCompoundText value.text ++ " =>")
          (inits.itemLine nestedItem.text id.toNat value.text ++
            block ("Some(" ++ decl.typeName) inits.text ++ ")\n") ++
        "\n_ => None,\n")
  | .list item id list elements =>
    block ("match " ++ item.text ++ ".get(" ++ tagPath id ++ ")")
      ("Some(tlv::TlvItemValue::List(" ++ list.text ++ ")) => Some(\n" ++
        indent 1 (list.text ++ "\n" ++
          indent 1 (".iter()\n" ++ elements.text ++ ".collect(),\n")) ++
        "),\n_ => None,\n")

def Elements.text : Elements → String
  | .leaf l element =>
    ".filter_map(|" ++ element.text ++ "| if let " ++ l.pattern ++ " = &" ++ element.text ++
      ".value " ++ inBraces l.matchedOption ++ " else " ++ inBraces "None" ++ ")\n"
  | .records decl element inits =>
    ".filter(|" ++ element.text ++ "| " ++ isCompoundText (element.text ++ ".value") ++ ")\n" ++
      block (".map(|" ++ element.text ++ "| " ++ decl.typeName) inits.text ++ ")\n"

def Inits.text : Inits → String
  | .nil => ""
  | .cons ident value rest => ident ++ ": " ++ value.text ++ ",\n" ++ rest.text

end

end ClusterCodec

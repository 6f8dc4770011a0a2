import ClusterCodec.Emit.CommandEncoder
import ClusterCodec.Proofs.EmittedWords

/-!
# EmittedExpressions — the tokens of generated expressions

- `code_block`, `code_docLine`, `code_publicFunction`, `code_ifElse`: the recurring pieces.
- `code_encode`, `code_pushes`: what turns values into wire values, at any depth.
- `code_decode`, `code_elements`, `code_inits`: what reads fields, at any depth.
- `code_parameter`: a parameter with its declared default.
- `atom_typeText_member`: the types of fields.
-/

namespace ClusterCodec
namespace Lexical

open Text

/-! ## Pieces -/

section Pieces

variable {x y z : String}

theorem code_line (atom : Atom x) : Code (x ++ "\n") := by
  have lineBreak : Fits .complete .ground "\n" := .of_run (by decide)
  exact atom.append lineBreak

theorem code_block (head : Atom x) (body : Code y) : Code (block x y) := by
  refine .of_parts [.atom, .fixed " \x7b\n", .code, .fixed "\x7d"] [x, indent 1 y] (by decide)
    ⟨head, body.indent 1, rfl⟩ ?_
  unfold block
  simp only [fill, String.append_assoc, String.append_empty]

theorem code_inBraces (text : Atom x) : Code (inBraces x) := by
  refine .of_parts [.fixed "\x7b ", .atom, .fixed " \x7d"] [x] (by decide) ⟨text, rfl⟩ ?_
  unfold inBraces
  simp only [fill, String.append_assoc, String.append_empty]

theorem code_docLine (text : Fits .comment .comment x) : Code (docLine x) := by
  refine .of_parts [.fixed "/// ", .inComment, .fixed "\n"] [x] (by decide) ⟨text, rfl⟩ ?_
  unfold docLine
  simp only [fill, String.append_assoc, String.append_empty]

theorem code_summaryLine (summary : String) : Code (summaryLine summary) := by
  unfold summaryLine
  dsimp only
  split
  · exact .empty
  · exact code_docLine (fits_oneLine summary)

theorem code_publicFunction (signature : Atom x) (body : Code y) : Code (publicFunction x y) := by
  have front : Fits .ground .ground "pub fn " := .of_run (by decide)
  exact code_line (code_block (front.append signature) body).atom

theorem code_ifElse (condition : Atom x) (yes : Code y) (no : Code z) : Code (ifElse x y z) := by
  have front : Fits .ground .ground "if " := .of_run (by decide)
  have other : WordText " else" := .of_run (by decide)
  have choice : Code (block ("if " ++ x) y ++ block " else" z) :=
    (code_block (front.append condition) yes).append (code_block other.atom_of_word no)
  exact code_line choice.atom

theorem code_failure (message : Fits .string .string x) : Code (failure x) := by
  refine .of_parts [.fixed "Err(anyhow::anyhow!(", .fixed "\"", .inString, .fixed "\"", .fixed "))"]
    [x] (by decide) ⟨message, rfl⟩ ?_
  unfold failure
  simp only [fill, String.append_assoc, String.append_empty]

end Pieces

/-! ## Names of types and binders -/

theorem wordText_intType (type : IntType) : WordText type.text := by
  cases type <;> exact .of_run (by decide)

theorem wordText_wireTag (tag : WireTag) : WordText tag.text := by
  cases tag <;> exact .of_run (by decide)

theorem wordText_container (container : Container) : WordText container.text := by
  cases container <;> exact .of_run (by decide)

theorem isWord_binder (b : Binder) : IsWord b.text := by
  have role : IsWord b.role.text := by cases b.role <;> decide
  exact role.append_decimal b.depth

theorem wordText_binder (b : Binder) : WordText b.text :=
  (isWord_binder b).wordText

/-! ## Encoding -/

section Encoding

variable {x y : String}

theorem code_encodedText (kind : WordText x) (argument : Atom y) : Code (encodedText x y) := by
  refine .of_parts [.fixed "tlv::TlvItemValueEnc::", .word, .fixed "(", .atom, .fixed ")"] [x, y]
    (by decide) ⟨kind, argument, rfl⟩ ?_
  unfold encodedText
  simp only [fill, String.append_assoc, String.append_empty]

theorem atom_wireCast (expr : Atom x) (type : IntType) (wire : WireTag) :
    Atom (wireCast x type wire) := by
  rw [wireCast]
  split
  · next wireType _ =>
      split
      · exact expr
      · have middle : Fits .complete .ground " as " := .of_run (by decide)
        exact ((expr.append middle).append (wordText_intType wireType)).atom_of_word
  · exact expr

theorem atom_copied {v : Value} (placed : WordText v.place.text) : Atom v.copied := by
  rw [Value.copied]
  split
  · have star : Fits .ground .ground "*" := .of_run (by decide)
    exact (star.append placed).atom_of_word
  · exact placed.atom_of_word

theorem atom_cloned {v : Value} (placed : WordText v.place.text) : Atom v.cloned := by
  rw [Value.cloned]
  split
  · have call : Fits .word .ground ".clone()" := .of_run (by decide)
    exact (placed.append call).atom
  · exact placed.atom_of_word

theorem code_encodeText {v : Value} (placed : WordText v.place.text) (l : Leaf) :
    Code (l.encodeText v) := by
  cases l with
  | int native wire =>
      exact code_encodedText (wordText_wireTag wire)
        (atom_wireCast (atom_copied placed) native wire)
  | bool => exact code_encodedText (wordText_wireTag _) (atom_copied placed)
  | string => exact code_encodedText (wordText_wireTag _) (atom_cloned placed)
  | bytes => exact code_encodedText (wordText_wireTag _) (atom_cloned placed)
  | enum e =>
      have call : Fits .word .ground ".to_u8()" := .of_run (by decide)
      exact code_encodedText (wordText_wireTag _) (placed.append call).atom
  | bitmap b => exact code_encodedText (wordText_wireTag _) (atom_copied placed)

theorem code_emptyCompound (container : Container) :
    Code (encodedText container.text emptyVector) :=
  code_encodedText (wordText_container container) (Fits.atom (.of_run (by decide)))

theorem code_record (container : Container) (fields : Binder) {pushes : Pushes}
    (inside : Code pushes.text) : Code (Encode.record container fields pushes).text := by
  rw [Encode.text]
  split
  · exact code_emptyCompound container
  · have name := wordText_binder fields
    have statements : Code ("let mut " ++ fields.text ++ ": Vec<tlv::TlvItemEnc> = " ++
        emptyVector ++ ";\n" ++ pushes.text ++ fields.text ++ "\n") := by
      refine .of_parts [.fixed "let mut ", .word, .fixed ": Vec<tlv::TlvItemEnc> = ",
        .fixed emptyVector, .fixed ";\n", .code, .word, .fixed "\n"]
        [fields.text, pushes.text, fields.text] (by decide) ⟨name, inside, name, rfl⟩ ?_
      simp only [fill, String.append_assoc, String.append_empty]
    refine code_encodedText (wordText_container container) (Fits.atom ?_)
    refine .of_parts [.fixed "\x7b\n", .code, .fixed "\x7d"] [_] (by decide)
      ⟨statements.indent 1, rfl⟩ ?_
    simp only [fill, String.append_assoc, String.append_empty]

theorem code_encodedList {value : Value} (placed : WordText value.place.text) (element : Binder)
    {encoded : Encode} (inside : Code encoded.text) :
    Code (Encode.list value element encoded).text := by
  have name := wordText_binder element
  have steps : Code (".iter()\n.map(|" ++ element.text ++ "| (" ++ Numeral.decimal elementTag ++
      ", " ++ encoded.text ++ ").into())\n.collect(),\n") := by
    refine .of_parts [.fixed ".iter()\n.map(|", .word, .fixed "| (", .atom, .fixed ", ", .code,
      .fixed ").into())\n.collect(),\n"] [element.text, Numeral.decimal elementTag, encoded.text]
      (by decide) ⟨name, atom_decimal _, inside, rfl⟩ ?_
    simp only [fill, String.append_assoc, String.append_empty]
  have lineBreak : Code "\n" := .of_run (by decide)
  rw [Encode.text]
  -- The steps of the chain are indented below the place, and the chain once more in the call.
  refine code_encodedText (wordText_wireTag _) (Fits.atom (lineBreak.append ?_))
  exact Code.indent ((code_line placed.atom_of_word).append (steps.indent 1)) 1

theorem code_push {owner vector : Place} {present : Binder} {ident : String} (id : UInt8)
    {encoded : Encode}
    (ownerWord : WordText owner.text) (identWord : WordText ident)
    (presentWord : WordText present.text) (vectorWord : WordText vector.text)
    (inside : Code encoded.text) :
    Code (block ("if let Some(" ++ present.text ++ ") = &" ++ owner.text ++ "." ++ ident)
      (vector.text ++ ".push((" ++ Numeral.decimal id.toNat ++ ", " ++ encoded.text ++
        ").into());\n") ++ "\n") := by
  refine code_line (code_block ?_ ?_).atom
  · refine .of_parts [.fixed "if let Some(", .word, .fixed ") = &", .word, .fixed ".",
      .hole .ground .complete] [present.text, owner.text, ident] (by decide)
      ⟨presentWord, ownerWord, identWord.atom_of_word, rfl⟩ ?_
    simp only [fill, String.append_assoc, String.append_empty]
  · refine .of_parts [.word, .fixed ".push((", .atom, .fixed ", ", .code, .fixed ").into());\n"]
      [vector.text, Numeral.decimal id.toNat, encoded.text] (by decide)
      ⟨vectorWord, atom_decimal _, inside, rfl⟩ ?_
    simp only [fill, String.append_assoc, String.append_empty]

mutual

/-- The expression that encodes a value is code, however deep structs and lists nest in it. -/
theorem code_encode {value : Value} (placed : WordText value.place.text) (depth : Nat)
    (container : Container) : (layout : Layout) → Code (layout.encode value depth container).text
  | .leaf l => by
      rw [Layout.encode, Encode.text]
      exact code_encodeText placed l
  | .record decl slots => by
      -- Below the outermost value every place is a binder, so only `value` needs a hypothesis.
      have vector : WordText (Place.bound ⟨.encoded, depth⟩).text := wordText_binder _
      rw [Layout.encode]
      exact code_record container _ (code_pushes placed vector depth slots)

theorem code_pushes {owner vector : Place} (ownerWord : WordText owner.text)
    (vectorWord : WordText vector.text) (depth : Nat) :
    (slots : Slots) → Code (slots.pushes owner vector depth).text
  | .nil => by
      rw [Slots.pushes, Pushes.text]
      exact .empty
  | .cons f layout rest => by
      have bound (b : Binder) : WordText (Value.boundTo b).place.text := wordText_binder b
      have value : Code (if f.isList then
          Encode.list (.boundTo ⟨.present, depth⟩) ⟨.present, depth + 1⟩
            (layout.encode (.boundTo ⟨.present, depth + 1⟩) (depth + 2) .anonymous)
          else layout.encode (.boundTo ⟨.present, depth⟩) (depth + 1) .invisible).text := by
        split
        · exact code_encodedList (bound _) _ (code_encode (bound _) _ _ layout)
        · exact code_encode (bound _) _ _ layout
      rw [Slots.pushes, Pushes.text]
      have first := code_push f.id ownerWord (isWord_ident f).wordText
        (wordText_binder ⟨.present, depth⟩) vectorWord value
      exact first.append (code_pushes ownerWord vectorWord depth rest)

end

end Encoding

/-! ## Reading -/

section Reading

variable {x y : String}

theorem atom_castTo (expr : Atom x) (type : IntType) : Atom (castTo type x) := by
  rw [castTo]
  split
  · exact expr
  · have middle : Fits .complete .ground " as " := .of_run (by decide)
    exact ((expr.append middle).append (wordText_intType type)).atom_of_word

theorem code_mapCast (type : IntType) : Code (mapCast type) := by
  have v : WordText "v" := .of_run (by decide)
  unfold mapCast
  split
  · exact .empty
  · refine .of_parts [.fixed ".map(|v| ", .atom, .fixed ")"] [castTo type "v"] (by decide)
      ⟨atom_castTo v.atom_of_word type, rfl⟩ ?_
    simp only [fill, String.append_assoc, String.append_empty]

theorem wordText_constructorName (type : IntType) : WordText (EnumType.constructorName type) := by
  have front : IsWord "from_" := by decide
  refine (front.append ?_).wordText
  cases type <;> decide

theorem wordText_typeName_enum (e : EnumDecl) : WordText e.typeName :=
  (isWord_typeName_enum e).wordText

theorem wordText_typeName_struct (d : StructDecl) : WordText d.typeName :=
  (isWord_typeName_struct d).wordText

theorem code_convert (expr : Atom x) (e : EnumDecl) : Code (e.convert x) := by
  refine .of_parts [.word, .fixed "::", .word, .fixed "(", .atom, .fixed ")"]
    [e.typeName, EnumType.constructorName e.repr, castTo e.repr x] (by decide)
    ⟨wordText_typeName_enum e, wordText_constructorName e.repr, atom_castTo expr e.repr, rfl⟩ ?_
  unfold EnumDecl.convert
  simp only [fill, String.append_assoc, String.append_empty]

theorem code_pattern (l : Leaf) : Code l.pattern := by
  unfold Leaf.pattern
  split <;> exact .of_run (by decide)

theorem atom_matched (l : Leaf) : Atom l.matched := by
  have v : WordText "*v" := .of_run (by decide)
  cases l with
  | int native _ => exact atom_castTo v.atom_of_word native
  | bool => exact v.atom_of_word
  | string => exact Fits.atom (.of_run (by decide))
  | bytes => exact Fits.atom (.of_run (by decide))
  | enum e => exact (code_convert v.atom_of_word e).atom
  | bitmap b => exact atom_castTo v.atom_of_word b.baseType

theorem code_some (text : Atom x) : Code ("Some(" ++ x ++ ")") := by
  refine .of_parts [.fixed "Some(", .atom, .fixed ")"] [x] (by decide) ⟨text, rfl⟩ ?_
  simp only [fill, String.append_assoc, String.append_empty]

theorem atom_matchedOption (l : Leaf) : Atom l.matchedOption := by
  unfold Leaf.matchedOption
  split
  · exact atom_matched _
  · exact (code_some (atom_matched l)).atom

theorem code_tagPath (id : UInt8) : Code (tagPath id) := by
  refine .of_parts [.fixed "&[", .atom, .fixed "]"] [Numeral.decimal id.toNat] (by decide)
    ⟨atom_decimal _, rfl⟩ ?_
  unfold tagPath
  simp only [fill, String.append_assoc, String.append_empty]

theorem code_call (object : WordText x) (method : WordText y) (id : UInt8) :
    Code (x ++ "." ++ y ++ "(" ++ tagPath id ++ ")") := by
  refine .of_parts [.word, .fixed ".", .word, .fixed "(", .code, .fixed ")"] [x, y, tagPath id]
    (by decide) ⟨object, method, code_tagPath id, rfl⟩ ?_
  simp only [fill, String.append_assoc, String.append_empty]

theorem code_readText {item : Place} (itemWord : WordText item.text) (l : Leaf) (id : UInt8) :
    Code (l.readText item id) := by
  have getInt := code_call itemWord (y := "get_int") (.of_run (by decide)) id
  cases l with
  | int native _ => exact getInt.append (code_mapCast native)
  | bool => exact code_call itemWord (.of_run (by decide)) id
  | string => exact code_call itemWord (.of_run (by decide)) id
  | bytes => exact code_call itemWord (.of_run (by decide)) id
  | enum e =>
      have v : WordText "v" := .of_run (by decide)
      unfold Leaf.readText
      refine .of_parts [.code, .fixed ".and_then(|v| ", .code, .fixed ")"] [_, e.convert "v"]
        (by decide) ⟨getInt, code_convert v.atom_of_word e, rfl⟩ ?_
      simp only [fill, String.append_assoc, String.append_empty]
  | bitmap b => exact getInt.append (code_mapCast b.baseType)

theorem code_isCompoundText (value : Atom x) : Code (isCompoundText x) := by
  refine .of_parts [.fixed "matches!(", .atom, .fixed ", tlv::TlvItemValue::List(_))"] [x]
    (by decide) ⟨value, rfl⟩ ?_
  unfold isCompoundText
  simp only [fill, String.append_assoc, String.append_empty]

theorem code_itemText (tag : Nat) (value : WordText x) : Code (itemText tag x) := by
  have inside : Code ("tag: " ++ Numeral.decimal tag ++ ", value: " ++ x ++ ".clone()") := by
    refine .of_parts [.fixed "tag: ", .atom, .fixed ", value: ", .word, .fixed ".clone()"]
      [Numeral.decimal tag, x] (by decide) ⟨atom_decimal tag, value, rfl⟩ ?_
    simp only [fill, String.append_assoc, String.append_empty]
  have front : Code "tlv::TlvItem " := .of_run (by decide)
  exact front.append (code_inBraces inside.atom)

theorem code_itemLine (item : WordText x) (tag : Nat) (value : WordText y) (inits : Inits) :
    Code (inits.itemLine x tag y) := by
  rw [Inits.itemLine]
  split
  · exact .empty
  · refine .of_parts [.fixed "let ", .word, .fixed " = ", .code, .fixed ";\n"] [x, itemText tag y]
      (by decide) ⟨item, code_itemText tag value, rfl⟩ ?_
    simp only [fill, String.append_assoc, String.append_empty]

/-- The head of a choice by the value at a tag. -/
theorem code_matchGet (object : WordText x) (id : UInt8) :
    Code ("match " ++ x ++ ".get(" ++ tagPath id ++ ")") := by
  refine .of_parts [.fixed "match ", .word, .fixed ".get(", .code, .fixed ")"] [x, tagPath id]
    (by decide) ⟨object, code_tagPath id, rfl⟩ ?_
  simp only [fill, String.append_assoc, String.append_empty]

theorem code_nested {item : Place} (itemWord : WordText item.text) (decl : StructDecl) (id : UInt8)
    (value nestedItem : Binder) {inits : Inits} (inside : Code inits.text) :
    Code (Decode.nested decl item id value nestedItem inits).text := by
  have guarded : Code ("Some(" ++ value.text ++ ") if " ++ isCompoundText value.text ++ " =>") := by
    refine .of_parts [.fixed "Some(", .word, .fixed ") if ", .code, .fixed " =>"]
      [value.text, isCompoundText value.text] (by decide)
      ⟨wordText_binder value, code_isCompoundText (wordText_binder value).atom_of_word, rfl⟩ ?_
    simp only [fill, String.append_assoc, String.append_empty]
  have literal : Code (block ("Some(" ++ decl.typeName) inits.text ++ ")\n") := by
    refine .of_parts [.fixed "Some(", .word, .fixed " \x7b\n", .code, .fixed "\x7d", .fixed ")\n"]
      [decl.typeName, indent 1 inits.text] (by decide)
      ⟨wordText_typeName_struct decl, inside.indent 1, rfl⟩ ?_
    unfold block
    simp only [fill, String.append_assoc, String.append_empty]
  have line := code_itemLine (wordText_binder nestedItem) id.toNat (wordText_binder value) inits
  have statements := line.append literal
  -- The arm is printed as one text, nested the other way.
  rw [← String.append_assoc] at statements
  have otherwise : Code "\n_ => None,\n" := .of_run (by decide)
  rw [Decode.text]
  exact code_block (code_matchGet itemWord id).atom
    ((code_block guarded.atom statements).append otherwise)

theorem code_listed {item : Place} (itemWord : WordText item.text) (id : UInt8) (list : Binder)
    {elements : Elements} (inside : Code elements.text) :
    Code (Decode.list item id list elements).text := by
  have steps : Code (".iter()\n" ++ elements.text ++ ".collect(),\n") := by
    refine .of_parts [.fixed ".iter()\n", .code, .fixed ".collect(),\n"] [elements.text] (by decide)
      ⟨inside, rfl⟩ ?_
    simp only [fill, String.append_assoc, String.append_empty]
  have chain : Code (list.text ++ "\n" ++
      indent 1 (".iter()\n" ++ elements.text ++ ".collect(),\n")) :=
    (code_line (wordText_binder list).atom_of_word).append (steps.indent 1)
  rw [Decode.text]
  refine code_block (code_matchGet itemWord id).atom ?_
  refine .of_parts [.fixed "Some(tlv::TlvItemValue::List(", .word, .fixed ")) => Some(\n", .code,
    .fixed "),\n_ => None,\n"] [list.text, _] (by decide)
    ⟨wordText_binder list, chain.indent 1, rfl⟩ ?_
  simp only [fill, String.append_assoc, String.append_empty]

theorem code_leafElements (l : Leaf) (element : Binder) : Code (Elements.leaf l element).text := by
  have none : WordText "None" := .of_run (by decide)
  have name := wordText_binder element
  unfold Elements.text
  refine .of_parts [.fixed ".filter_map(|", .word, .fixed "| if let ", .code, .fixed " = &", .word,
    .fixed ".value ", .code, .fixed " else ", .code, .fixed ")\n"]
    [element.text, l.pattern, element.text, inBraces l.matchedOption, inBraces "None"] (by decide)
    ⟨name, code_pattern l, name, code_inBraces (atom_matchedOption l),
      code_inBraces none.atom_of_word, rfl⟩ ?_
  simp only [fill, String.append_assoc, String.append_empty]

-- The literal of the element stands inside the parentheses of `.map`: the head of its block is not
-- code by itself, so the two calls are one template.
theorem code_recordElements (decl : StructDecl) (element : Binder) {inits : Inits}
    (inside : Code inits.text) : Code (Elements.records decl element inits).text := by
  have name := wordText_binder element
  have value : Fits .word .word ".value" := .of_run (by decide)
  unfold Elements.text
  refine .of_parts [.fixed ".filter(|", .word, .fixed "| ", .code, .fixed ")\n", .fixed ".map(|",
    .word, .fixed "| ", .word, .fixed " \x7b\n", .code, .fixed "\x7d", .fixed ")\n"]
    [element.text, isCompoundText (element.text ++ ".value"), element.text, decl.typeName,
      indent 1 inits.text] (by decide)
    ⟨name, code_isCompoundText (name.append value).atom_of_word, name,
      wordText_typeName_struct decl, inside.indent 1, rfl⟩ ?_
  unfold block
  simp only [fill, String.append_assoc, String.append_empty]

theorem code_init {value : Decode} (ident : WordText x) (inside : Code value.text) :
    Code (x ++ ": " ++ value.text ++ ",\n") := by
  refine .of_parts [.word, .fixed ": ", .code, .fixed ",\n"] [x, value.text] (by decide)
    ⟨ident, inside, rfl⟩ ?_
  simp only [fill, String.append_assoc, String.append_empty]

mutual

/-- The expression that reads a value is code, however deep structs and lists nest in it. -/
theorem code_decode {item : Place} (itemWord : WordText item.text) (id : UInt8) (depth : Nat) :
    (layout : Layout) → Code (layout.decode item id depth).text
  | .leaf l => by
      rw [Layout.decode, Decode.text]
      exact code_readText itemWord l id
  | .record decl slots => by
      have nestedWord : WordText (Place.bound ⟨.nestedItem, depth⟩).text := wordText_binder _
      rw [Layout.decode]
      exact code_nested itemWord decl id _ _ (code_inits nestedWord (depth + 1) slots)

theorem code_elements (depth : Nat) : (layout : Layout) → Code (layout.elements depth).text
  | .leaf l => by
      rw [Layout.elements]
      exact code_leafElements l _
  | .record decl slots => by
      have elementWord : WordText (Place.bound ⟨.element, depth⟩).text := wordText_binder _
      rw [Layout.elements]
      exact code_recordElements decl _ (code_inits elementWord (depth + 1) slots)

theorem code_inits {item : Place} (itemWord : WordText item.text) (depth : Nat) :
    (slots : Slots) → Code (slots.inits item depth).text
  | .nil => by
      rw [Slots.inits, Inits.text]
      exact .empty
  | .cons f layout rest => by
      have value : Code (if f.isList then .list item f.id ⟨.list, depth⟩ (layout.elements depth)
          else layout.decode item f.id depth : Decode).text := by
        split
        · exact code_listed itemWord f.id _ (code_elements depth layout)
        · exact code_decode itemWord f.id depth layout
      rw [Slots.inits, Inits.text]
      exact (code_init (isWord_ident f).wordText value).append
        (code_inits itemWord depth rest)

end

end Reading

/-! ## Parameters -/

section Parameters

variable {x y : String}

theorem atom_defaultLiteral {l : Leaf} {text : Option String} {literal : String}
    (plain : PlainDefault text) (found : l.defaultLiteral? text = some literal) : Atom literal := by
  rcases Option.bind_eq_some_iff.1 found with ⟨raw, declared, found⟩
  -- Enums and bitmaps have the literals of their integer types.
  have integer {type : IntType}
      (read : (intLiteral? raw.toList type).map IntLiteral.text = some literal) : Atom literal := by
    rcases Option.map_eq_some_iff.1 read with ⟨n, chosen, rfl⟩
    exact atom_intLiteral plain declared chosen
  cases l with
  | int native _ => exact integer found
  | bitmap b => exact integer found
  | enum e => exact integer found
  | bool =>
      change boolLiteral? raw = some literal at found
      unfold boolLiteral? at found
      dsimp only at found
      split at found
      · cases found
        exact Fits.atom_of_word (.of_run (by decide))
      · split at found
        · cases found
          exact Fits.atom_of_word (.of_run (by decide))
        · cases found
  | string =>
      cases found
      have call : Fits .stringEnd .ground ".to_string()" := .of_run (by decide)
      exact ((fits_quote raw).append call).atom
  | bytes =>
      cases found
      have call : Fits .stringEnd .ground ".as_bytes().to_vec()" := .of_run (by decide)
      exact ((fits_quote raw).append call).atom

theorem code_orDefault (source : WordText x) : Code (x ++ ".unwrap_or_default()") := by
  have call : Fits .word .ground ".unwrap_or_default()" := .of_run (by decide)
  exact source.append call

theorem code_orLiteral (source : WordText x) {literal : Option String}
    (atom : ∀ l ∈ literal, Atom l) : Code (orLiteral x literal) := by
  cases literal with
  | none => exact code_orDefault source
  | some l =>
      unfold orLiteral
      refine .of_parts [.word, .fixed ".unwrap_or(", .atom, .fixed ")"] [x, l] (by decide)
        ⟨source, atom l rfl, rfl⟩ ?_
      simp only [fill, String.append_assoc, String.append_empty]

theorem code_orComputed (source : WordText x) {literal : Option String}
    (atom : ∀ l ∈ literal, Atom l) : Code (orComputed x literal) := by
  cases literal with
  | none => exact code_orDefault source
  | some l =>
      unfold orComputed
      refine .of_parts [.word, .fixed ".unwrap_or_else(|| ", .atom, .fixed ")"] [x, l] (by decide)
        ⟨source, atom l rfl, rfl⟩ ?_
      simp only [fill, String.append_assoc, String.append_empty]

theorem code_encodeOr (source : WordText x) {literal : Option String}
    (atom : ∀ l ∈ literal, Atom l) (l : Leaf) : Code (l.encodeOr x literal) := by
  have orLiteral := (code_orLiteral source atom).atom
  have orComputed := (code_orComputed source atom).atom
  cases l with
  | int native wire =>
      exact code_encodedText (wordText_wireTag wire) (atom_wireCast orLiteral native wire)
  | bool => exact code_encodedText (wordText_wireTag _) orLiteral
  | string => exact code_encodedText (wordText_wireTag _) orComputed
  | bytes => exact code_encodedText (wordText_wireTag _) orComputed
  | bitmap b => exact code_encodedText (wordText_wireTag _) orLiteral
  | enum e =>
      have value : Atom (literal.getD "0") := by
        cases literal with
        -- A lone zero may still turn into `0x`, which is why it ends in a mode of its own.
        | none => exact .weaken (.of_run (b := .zero) (by decide)) .zero
        | some l => exact atom l rfl
      refine code_encodedText (wordText_wireTag _) (Fits.atom ?_)
      refine .of_parts [.word, .fixed ".map(|e| e.to_u8()).unwrap_or(", .atom, .fixed ")"]
        [x, literal.getD "0"] (by decide) ⟨source, value, rfl⟩ ?_
      simp only [fill, String.append_assoc, String.append_empty]

theorem code_encodeList {value : Value} (placed : WordText value.place.text) (depth : Nat)
    (layout : Layout) : Code (layout.encodeList value depth).text := by
  have bound : WordText (Value.boundTo ⟨.present, depth⟩).place.text := wordText_binder _
  exact code_encodedList placed _ (code_encode bound _ _ layout)

theorem code_encodeField (f : Field) {value : Value} (placed : WordText value.place.text)
    (depth : Nat) (layout : Layout) : Code (layout.encodeField f value depth).text := by
  rw [Layout.encodeField]
  split
  · exact code_encodeList placed depth layout
  · exact code_encode placed depth _ layout

theorem code_optionalCompound (source : WordText x) (present : Binder) {encoded : Encode}
    (inside : Code encoded.text) (empty : Container) :
    Code (Parameter.compound x present encoded empty).text := by
  have front : Fits .ground .ground "match &" := .of_run (by decide)
  unfold Parameter.text
  refine code_block (front.append source).atom_of_word ?_
  refine .of_parts [.fixed "Some(", .word, .fixed ") => ", .code, .fixed ",\nNone => ", .code,
    .fixed ",\n"] [present.text, encoded.text, encodedText empty.text emptyVector] (by decide)
    ⟨wordText_binder present, inside, code_emptyCompound empty, rfl⟩ ?_
  simp only [fill, String.append_assoc, String.append_empty]

/-- The expression that encodes a parameter is code. -/
theorem code_parameter (f : Field) (plain : PlainDefault f.defaultText) (layout : Layout)
    (source : WordText x) : Code (Parameter.of f layout x).text := by
  have owned : WordText (Value.owned x).place.text := source
  have bound : WordText (Value.boundTo ⟨.present, 0⟩).place.text := wordText_binder _
  unfold Parameter.of
  dsimp only
  split
  · exact code_encodeField f owned 0 layout
  · split
    · exact code_optionalCompound source _ (code_encodeList bound 1 layout) _
    · cases layout with
      | leaf l => exact code_encodeOr source (fun _ found => atom_defaultLiteral plain found) l
      | record decl slots =>
          exact code_optionalCompound source _ (code_encode bound 1 _ (.record decl slots)) _

end Parameters

/-! ## Types -/

section Types

variable {x : String} {r : Resolved}

theorem code_vec (element : Atom x) : Code ("Vec<" ++ x ++ ">") := by
  refine .of_parts [.fixed "Vec<", .atom, .fixed ">"] [x] (by decide) ⟨element, rfl⟩ ?_
  simp only [fill, String.append_assoc, String.append_empty]

theorem code_optionText (type : Atom x) : Code (optionText x) := by
  refine .of_parts [.fixed "Option<", .atom, .fixed ">"] [x] (by decide) ⟨type, rfl⟩ ?_
  unfold optionText
  simp only [fill, String.append_assoc, String.append_empty]

theorem atom_typeText_leaf (l : Leaf) : Atom l.typeText := by
  cases l with
  | int native _ => exact (wordText_intType native).atom_of_word
  | bool => exact Fits.atom_of_word (.of_run (by decide))
  | string => exact Fits.atom_of_word (.of_run (by decide))
  | bytes => exact Fits.atom (.of_run (by decide))
  | enum e => exact (wordText_typeName_enum e).atom_of_word
  | bitmap b => exact (isWord_typeName_bitmap b).wordText.atom_of_word

theorem atom_typeText_shape (shape : Shape r) : Atom shape.typeText := by
  cases shape with
  | leaf l => exact atom_typeText_leaf l
  | struct t => exact (wordText_typeName_struct t.decl).atom_of_word

theorem atom_typeText_member (m : Member r) : Atom m.typeText := by
  rw [Member.typeText]
  split
  · exact (code_vec (atom_typeText_shape m.shape)).atom
  · exact atom_typeText_shape m.shape

end Types
end Lexical
end ClusterCodec

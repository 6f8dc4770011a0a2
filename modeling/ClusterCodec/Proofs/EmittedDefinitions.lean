import ClusterCodec.Module.Definition
import ClusterCodec.Proofs.EmittedExpressions

/-!
# EmittedDefinitions — the tokens of generated definitions

- `code_recordType`, `code_enumType`, `code_bitmapType`: types.
- `code_commandEncoder`, `code_attributeDecoder`, `code_payload`: functions.
- `code_dispatcher`, `code_attributeList`: what reaches the attributes of a cluster by id.
-/

namespace ClusterCodec
namespace Lexical

open Text

/-! ## Structs -/

section Records

variable {r : Resolved}

theorem isWord_member (m : Member r) : IsWord m.ident := by
  rw [Member.ident]
  exact isWord_ident m.field

theorem fits_hexHelper (helper : HexHelper) : Fits .string .string helper.text := by
  cases helper <;> exact .of_run (by decide)

theorem code_recordField {f : RecordField} (ident : IsWord f.ident) (type : Atom f.typeText) :
    Code f.text := by
  rcases f with ⟨name, typeText, helper⟩
  have option := code_optionText type
  cases helper with
  | none =>
      refine .of_parts [.fixed "", .fixed "pub ", .word, .fixed ": ", .code, .fixed ",\n"]
        [name, optionText typeText] (by decide) ⟨ident.wordText, option, rfl⟩ ?_
      unfold RecordField.text
      simp only [fill, String.append_assoc, String.append_empty]
  | some helper =>
      refine .of_parts [.fixed "#[serde(serialize_with = ", .fixed "\"", .inString, .fixed "\"",
        .fixed ")]\n", .fixed "pub ", .word, .fixed ": ", .code, .fixed ",\n"]
        [helper.text, name, optionText typeText] (by decide)
        ⟨fits_hexHelper helper, ident.wordText, option, rfl⟩ ?_
      unfold RecordField.text
      simp only [fill, String.append_assoc, String.append_empty]

theorem code_recordType {t : RecordType} (name : IsWord t.name)
    (fields : ∀ f ∈ t.fields, Code f.text) : Code t.text := by
  have derives : Code "#[derive(Debug, Clone, Default, serde::Serialize)]\n" := .of_run (by decide)
  have front : Fits .ground .ground "pub struct " := .of_run (by decide)
  have inside : Code (String.join (t.fields.map RecordField.text)) := .join_map fields
  unfold RecordType.text
  exact code_line
    (derives.append (code_block (front.append name.wordText).atom_of_word inside)).atom

theorem code_recordType_members {name : String} (word : IsWord name) (owner : Option String)
    (fields : List Field) : Code (r.recordType name owner fields).text := by
  refine code_recordType word fun f listed => ?_
  rcases List.mem_map.1 listed with ⟨m, -, rfl⟩
  have ident : IsWord m.recordField.ident := by
    simp only [Member.recordField]
    exact isWord_member m
  exact code_recordField ident (atom_typeText_member m)

end Records

/-! ## Enums -/

section Enums

variable {x y : String}

theorem isWord_append_intType (front : IsWord x) (type : IntType) : IsWord (x ++ type.text) := by
  refine front.append ?_
  cases type <;> decide

theorem fits_intType (type : IntType) : Fits .comment .comment type.text := by
  cases type <;> exact .of_run (by decide)

theorem code_constructorSignature (argument : WordText x) (type : IntType) :
    Code (EnumType.constructorSignature type x) := by
  refine .of_parts [.word, .fixed "(", .word, .fixed ": ", .word, .fixed ") -> Option<Self>"]
    [EnumType.constructorName type, x, type.text] (by decide)
    ⟨wordText_constructorName type, argument, wordText_intType type, rfl⟩ ?_
  unfold EnumType.constructorSignature
  simp only [fill, String.append_assoc, String.append_empty]

theorem wordText_readerSignature (type : IntType) : WordText (EnumType.readerSignature type) := by
  have front : IsWord "to_" := by decide
  refine .of_parts [.word, .fixed "(self) -> ", .word] ["to_" ++ type.text, type.text] (by decide)
    ⟨(isWord_append_intType front type).wordText, wordText_intType type, rfl⟩ ?_
  unfold EnumType.readerSignature
  simp only [fill, String.append_assoc, String.append_empty]

theorem code_variant {v : EnumVariant} (ident : IsWord v.ident) :
    Code (EnumType.variantText v) := by
  refine .of_parts [.code, .word, .fixed " = ", .atom, .fixed ",\n"]
    [summaryLine v.summary, v.ident, Numeral.decimal v.value.toNat] (by decide)
    ⟨code_summaryLine v.summary, ident.wordText, atom_decimal _, rfl⟩ ?_
  unfold EnumType.variantText
  simp only [fill, String.append_assoc, String.append_empty]

theorem code_matchText {t : EnumType} (idents : ∀ v ∈ t.variants, IsWord v.ident) :
    Code t.matchText := by
  have head : WordText "match value" := .of_run (by decide)
  have otherwise : Code "_ => None,\n" := .of_run (by decide)
  have arms : Code (String.join (t.arms.map EnumType.armText)) := by
    refine .join_map fun arm listed => ?_
    rcases List.mem_map.1 listed with ⟨v, member, rfl⟩
    unfold EnumType.armText
    refine .of_parts [.atom, .fixed " => Some(Self::", .word, .fixed "),\n"]
      [Numeral.decimal v.value.toNat, v.ident] (by decide)
      ⟨atom_decimal _, (idents v member).wordText, rfl⟩ ?_
    simp only [fill, String.append_assoc, String.append_empty]
  exact code_line (code_block head.atom_of_word (arms.append otherwise)).atom

theorem code_implText (name : IsWord x) {functions : List String}
    (each : ∀ f ∈ functions, Code f) : Code (EnumType.implText x functions) := by
  have front : Fits .ground .ground "impl " := .of_run (by decide)
  have between : Code "\n" := .of_run (by decide)
  exact code_line
    (code_block (front.append name.wordText).atom_of_word (.intercalate each between .refl)).atom

theorem code_intoText (name : IsWord x) (type : IntType) (body : Code y) :
    Code (EnumType.intoText x type y) := by
  have inner : Atom ("fn from(val: " ++ x ++ ") -> Self") := by
    refine Fits.atom_of_word ?_
    refine .of_parts [.fixed "fn from(val: ", .word, .fixed ") -> Self"] [x] (by decide)
      ⟨name.wordText, rfl⟩ ?_
    simp only [fill, String.append_assoc, String.append_empty]
  have outer : Atom ("impl From<" ++ x ++ "> for " ++ type.text) := by
    refine .of_parts [.fixed "impl From<", .word, .fixed "> for ", .atom] [x, type.text] (by decide)
      ⟨name.wordText, (wordText_intType type).atom_of_word, rfl⟩ ?_
    simp only [fill, String.append_assoc, String.append_empty]
  exact code_line (code_block outer (code_line (code_block inner body).atom)).atom

theorem code_derives : Code EnumType.derives :=
  .of_run (by decide +kernel)

/-- A documented function. -/
theorem code_documented {doc signature body : String} (text : Fits .comment .comment doc)
    (head : Atom signature) (inside : Code body) :
    Code (docLine doc ++ publicFunction signature body) :=
  (code_docLine text).append (code_publicFunction head inside)

theorem code_emptyEnum (name : IsWord x) : Code (EnumType.emptyText x) := by
  have value : WordText "_value" := .of_run (by decide)
  have none : Code "None\n" := .of_run (by decide)
  have reader := (wordText_readerSignature .u8).atom_of_word
  have constructor := (code_constructorSignature value .u8).atom
  have functions : ∀ f ∈ [
      docLine "Convert from u8 value" ++
        publicFunction (EnumType.constructorSignature .u8 "_value") "None\n",
      docLine "Convert to u8 value" ++
        publicFunction (EnumType.readerSignature .u8) "match self \x7b\x7d\n"], Code f := by
    intro f listed
    simp only [List.mem_cons, List.not_mem_nil, or_false] at listed
    rcases listed with rfl | rfl
    · exact code_documented (.of_run (by decide)) constructor none
    · exact code_documented (.of_run (by decide)) reader (.of_run (by decide))
  have head : Code ("pub enum " ++ x ++ " \x7b\x7d\n\n") := by
    refine .of_parts [.fixed "pub enum ", .word, .fixed " \x7b\x7d\n\n"] [x] (by decide)
      ⟨name.wordText, rfl⟩ ?_
    simp only [fill, String.append_assoc, String.append_empty]
  have lineBreak : Code "\n" := .of_run (by decide)
  have into := code_intoText name .u8 (y := "match val \x7b\x7d\n") (.of_run (by decide))
  have whole := (((code_derives.append head).append (code_implText name functions)).append
    lineBreak).append into
  unfold EnumType.emptyText
  simp only [String.append_assoc] at whole ⊢
  exact whole

theorem code_byteFunctions {t : EnumType} (idents : ∀ v ∈ t.variants, IsWord v.ident) :
    ∀ f ∈ t.byteFunctions, Code f := by
  have value : WordText "value" := .of_run (by decide)
  intro f listed
  simp only [EnumType.byteFunctions, List.mem_cons, List.not_mem_nil, or_false] at listed
  rcases listed with rfl | rfl
  · exact code_documented (.of_run (by decide)) (code_constructorSignature value .u8).atom
      (code_matchText idents)
  · exact code_documented (.of_run (by decide)) (wordText_readerSignature .u8).atom_of_word
      (.of_run (by decide))

theorem code_wideFunctions {t : EnumType} (idents : ∀ v ∈ t.variants, IsWord v.ident) :
    ∀ f ∈ t.wideFunctions, Code f := by
  have value : WordText "value" := .of_run (by decide)
  have type := fits_intType t.repr
  have word := wordText_intType t.repr
  intro f listed
  simp only [EnumType.wideFunctions, List.mem_cons, List.not_mem_nil, or_false] at listed
  rcases listed with rfl | rfl | rfl | rfl
  · refine code_documented ?_ (code_constructorSignature value .u8).atom ?_
    · refine .of_parts [.fixed "Convert from u8 value (promoted to ", .inComment, .fixed ")"]
        [t.repr.text] (by decide) ⟨type, rfl⟩ ?_
      simp only [fill, String.append_assoc, String.append_empty]
    · refine .of_parts [.fixed "Self::", .word, .fixed "(", .word, .fixed "::from(value))\n"]
        [EnumType.constructorName t.repr, t.repr.text] (by decide)
        ⟨wordText_constructorName t.repr, word, rfl⟩ ?_
      simp only [fill, String.append_assoc, String.append_empty]
  · refine code_documented ?_ (code_constructorSignature value t.repr).atom (code_matchText idents)
    refine .of_parts [.fixed "Convert from ", .inComment, .fixed " value"] [t.repr.text] (by decide)
      ⟨type, rfl⟩ ?_
    simp only [fill, String.append_assoc, String.append_empty]
  · exact code_documented (.of_run (by decide)) (wordText_readerSignature .u8).atom_of_word
      (.of_run (by decide))
  · refine code_documented ?_ (wordText_readerSignature t.repr).atom_of_word ?_
    · refine .of_parts [.fixed "Convert to ", .inComment, .fixed " value"] [t.repr.text] (by decide)
        ⟨type, rfl⟩ ?_
      simp only [fill, String.append_assoc, String.append_empty]
    · refine .of_parts [.fixed "self as ", .word, .fixed "\n"] [t.repr.text] (by decide)
        ⟨word, rfl⟩ ?_
      simp only [fill, String.append_assoc, String.append_empty]

theorem code_enumType {t : EnumType} (name : IsWord t.name)
    (idents : ∀ v ∈ t.variants, IsWord v.ident) : Code t.text := by
  have word := wordText_intType t.repr
  unfold EnumType.text
  split
  · exact code_emptyEnum name
  · have functions : ∀ f ∈ (if t.repr = .u8 then t.byteFunctions else t.wideFunctions), Code f := by
      split
      · exact code_byteFunctions idents
      · exact code_wideFunctions idents
    have variants : Code (String.join (t.variants.map EnumType.variantText)) :=
      .join_map fun v member => code_variant (idents v member)
    have front : Fits .ground .ground "pub enum " := .of_run (by decide)
    have lineBreaks : Code "\n\n" := .of_run (by decide)
    have lineBreak : Code "\n" := .of_run (by decide)
    have value : Code ("val as " ++ t.repr.text ++ "\n") := by
      refine .of_parts [.fixed "val as ", .word, .fixed "\n"] [t.repr.text] (by decide)
        ⟨word, rfl⟩ ?_
      simp only [fill, String.append_assoc, String.append_empty]
    have repr : Code ("#[repr(" ++ t.repr.text ++ ")]\n") := by
      refine .of_parts [.fixed "#[repr(", .word, .fixed ")]\n"] [t.repr.text] (by decide)
        ⟨word, rfl⟩ ?_
      simp only [fill, String.append_assoc, String.append_empty]
    have declaration := (code_derives.append repr).append
      ((code_block (front.append name.wordText).atom_of_word variants).append lineBreaks)
    have whole := ((declaration.append (code_implText name functions)).append lineBreak).append
      (code_intoText name t.repr value)
    simp only [String.append_assoc] at whole ⊢
    exact whole

end Enums

/-! ## Bitmaps -/

theorem code_maskConstant {c : MaskConstant} (ident : IsWord c.ident) (base : IntType) :
    Code (BitmapType.constantText base c) := by
  refine .of_parts [.code, .fixed "pub const ", .word, .fixed ": ", .word, .fixed " = ", .atom,
    .fixed ";\n"] [summaryLine c.summary, c.ident, base.text, Numeral.hexMask c.mask] (by decide)
    ⟨code_summaryLine c.summary, ident.wordText, wordText_intType base, atom_hexMask _, rfl⟩ ?_
  unfold BitmapType.constantText
  simp only [fill, String.append_assoc, String.append_empty]

theorem code_bitmapType {t : BitmapType} (name : IsWord t.name) (moduleName : IsWord t.moduleName)
    (idents : ∀ c ∈ t.constants, IsWord c.ident) : Code t.text := by
  have comment : Fits .comment .comment t.name := name.oneLine.fits
  have module : Code t.moduleText := by
    unfold BitmapType.moduleText
    split
    · exact .empty
    · have constants : Code (String.join (t.constants.map (BitmapType.constantText t.base))) :=
        .join_map fun c member => code_maskConstant (idents c member) t.base
      have title : Fits .comment .comment "Constants for " := .of_run (by decide)
      have front : Fits .ground .ground "pub mod " := .of_run (by decide)
      have lineBreak : Code "\n" := .of_run (by decide)
      have doc := lineBreak.append (code_docLine (title.append comment))
      have module := code_block (front.append moduleName.wordText).atom_of_word constants
      exact code_line (doc.append module).atom
  have doc : Code (docLine (t.name ++ " bitmap type")) :=
    code_docLine (comment.append (.of_run (by decide)))
  refine .of_parts [.code, .fixed "pub type ", .word, .fixed " = ", .word, .fixed ";\n", .code]
    [docLine (t.name ++ " bitmap type"), t.name, t.base.text, t.moduleText] (by decide)
    ⟨doc, name.wordText, wordText_intType t.base, module, rfl⟩ ?_
  unfold BitmapType.text
  simp only [fill, String.append_assoc, String.append_empty]

/-! ## Commands -/

section Commands

variable {r : Resolved}

theorem OneLine.docs {x y : String} (name : OneLine x) (id : OneLine y) {front middle back : String}
    (fixed : OneLine front ∧ OneLine middle ∧ OneLine back) :
    Fits .comment .comment (front ++ x ++ middle ++ y ++ back) :=
  (((fixed.1.fits.append name.fits).append fixed.2.1.fits).append id.fits).append fixed.2.2.fits

/-- What a parameter is made of. -/
structure PrintableParam (p : CommandParam) : Prop where
  ident : IsWord p.ident
  type : Atom p.typeText
  encoded : Code p.encoded.text

theorem printable_commandParam {access : String} (isAccess : access = "params." ∨ access = "")
    (m : Member r) (plain : PlainDefault m.field.defaultText) :
    PrintableParam (r.commandParam access m) := by
  have word := isWord_member m
  have source : WordText (access ++ m.ident) := by
    have front : Fits .ground .ground access := by
      rcases isAccess with rfl | rfl
      · exact .of_run (by decide)
      · exact .empty
    exact front.append word.wordText
  have type := atom_typeText_member m
  constructor
  · simp only [Resolved.commandParam]
    exact word
  · simp only [Resolved.commandParam]
    split
    · exact (code_optionText type).atom
    · exact type
  · simp only [Resolved.commandParam]
    exact code_parameter m.field plain (r.layout m.shape) source

theorem atom_declaration {p : CommandParam} (printable : PrintableParam p) :
    Atom p.declaration := by
  refine .of_parts [.word, .fixed ": ", .atom] [p.ident, p.typeText] (by decide)
    ⟨printable.ident.wordText, printable.type, rfl⟩ ?_
  unfold CommandParam.declaration
  simp only [fill, String.append_assoc, String.append_empty]

theorem code_commandParam {p : CommandParam} (printable : PrintableParam p) : Code p.text := by
  refine .of_parts [.fixed "(", .atom, .fixed ", ", .code, .fixed ").into(),\n"]
    [Numeral.decimal p.id.toNat, p.encoded.text] (by decide)
    ⟨atom_decimal _, printable.encoded, rfl⟩ ?_
  unfold CommandParam.text
  simp only [fill, String.append_assoc, String.append_empty]

variable {e : CommandEncoder}

theorem code_paramsType (name : OneLine e.name) (type : ∀ t ∈ e.paramsType, IsWord t)
    (params : ∀ p ∈ e.params, PrintableParam p) : Code e.paramsTypeText := by
  unfold CommandEncoder.paramsTypeText
  split
  · exact .empty
  · next t found =>
      have front : Fits .comment .comment "Parameters for " := .of_run (by decide)
      have back : Fits .comment .comment " command" := .of_run (by decide)
      have doc := code_docLine ((front.append name.fits).append back)
      have derives : Code "#[derive(Debug, Clone)]\n" := .of_run (by decide)
      have head : Fits .ground .ground "pub struct " := .of_run (by decide)
      have lineBreaks : Code "\n\n" := .of_run (by decide)
      have fields :
          Code (String.join (e.params.map fun p => "pub " ++ p.declaration ++ ",\n")) := by
        refine .join_map fun p member => ?_
        refine .of_parts [.fixed "pub ", .atom, .fixed ",\n"] [p.declaration] (by decide)
          ⟨atom_declaration (params p member), rfl⟩ ?_
        simp only [fill, String.append_assoc, String.append_empty]
      exact ((doc.append derives).append
        (code_block (head.append (type t found).wordText).atom_of_word fields)).append lineBreaks

theorem atom_signature (type : ∀ t ∈ e.paramsType, IsWord t)
    (params : ∀ p ∈ e.params, PrintableParam p) : Atom e.signature := by
  unfold CommandEncoder.signature
  split
  · have between : Fits .complete .ground ", " := .of_run (by decide)
    exact .intercalate_map (fun p member => atom_declaration (params p member)) between .ground
  · next t found =>
      have front : Fits .ground .ground "params: " := .of_run (by decide)
      exact (front.append (type t found).wordText).atom_of_word

theorem code_commandBody (params : ∀ p ∈ e.params, PrintableParam p) : Code e.body := by
  have inside : Code (String.join (e.params.map CommandParam.text)) :=
    .join_map fun p member => code_commandParam (params p member)
  have list :
      Code ("vec![\n" ++ indent 1 (String.join (e.params.map CommandParam.text)) ++ "]") := by
    refine .of_parts [.fixed "vec![\n", .code, .fixed "]"] [_] (by decide) ⟨inside.indent 1, rfl⟩ ?_
    simp only [fill, String.append_assoc, String.append_empty]
  have head : WordText "let tlv = tlv::TlvItemEnc" := .of_run (by decide)
  have back : Code ";\nOk(tlv.encode()?)\n" := .of_run (by decide)
  unfold CommandEncoder.body
  refine (code_block head.atom_of_word ?_).append back
  refine .of_parts [.fixed "tag: 0,\nvalue: ", .code, .fixed ",\n"] [_] (by decide)
    ⟨code_encodedText (wordText_container .invisible) list.atom, rfl⟩ ?_
  simp only [fill, String.append_assoc, String.append_empty]

theorem code_commandEncoder (name : OneLine e.name) (id : OneLine e.id)
    (function : IsWord e.function) (type : ∀ t ∈ e.paramsType, IsWord t)
    (params : ∀ p ∈ e.params, PrintableParam p) : Code e.text := by
  have signature : Atom (e.function ++ "(" ++ e.signature ++ ") -> anyhow::Result<Vec<u8>>") := by
    refine Fits.atom ?_
    refine .of_parts [.word, .fixed "(", .atom, .fixed ") -> anyhow::Result<Vec<u8>>"]
      [e.function, e.signature] (by decide)
      ⟨function.wordText, atom_signature type params, rfl⟩ ?_
    simp only [fill, String.append_assoc, String.append_empty]
  have doc : Code (docLine ("Encode " ++ e.name ++ " command (" ++ e.id ++ ")")) :=
    code_docLine (name.docs id (by decide))
  exact ((code_paramsType name type params).append doc).append
    (code_publicFunction signature (code_commandBody params))

end Commands

/-! ## Payloads -/

section Payloads

variable {x y : String}

theorem code_decoderSignature {result : String} (name : WordText x) (argument : WordText y)
    (type : Atom result) : Code (decoderSignature x y result) := by
  refine .of_parts [.word, .fixed "(", .word, .fixed ": &tlv::TlvItemValue) -> anyhow::Result<",
    .atom, .fixed ">"] [x, y, result] (by decide) ⟨name, argument, type, rfl⟩ ?_
  unfold decoderSignature
  simp only [fill, String.append_assoc, String.append_empty]

theorem code_success (strictness : Strictness) (value : Atom x) : Code (strictness.success x) := by
  cases strictness with
  | required =>
      unfold Strictness.success
      refine .of_parts [.fixed "Ok(", .atom, .fixed ")"] [x] (by decide) ⟨value, rfl⟩ ?_
      simp only [fill, String.append_assoc, String.append_empty]
  | optional =>
      unfold Strictness.success
      refine .of_parts [.fixed "Ok(Some(", .atom, .fixed "))"] [x] (by decide) ⟨value, rfl⟩ ?_
      simp only [fill, String.append_assoc, String.append_empty]

theorem code_mismatch (strictness : Strictness) (message : Fits .string .string x) :
    Code (strictness.mismatch x) := by
  cases strictness with
  | required => exact code_failure message
  | optional =>
      have none : Code "Ok(None)" := .of_run (by decide)
      exact none

theorem code_compoundInits (r : Resolved) (owner : Option String) (fields : List Field) :
    Code (r.compoundInits owner fields).text := by
  have item : WordText (Place.given rootItem).text := .of_run (by decide)
  exact code_inits item 0 _

theorem code_compoundBody (name : IsWord x) {inits : Inits} (inside : Code inits.text)
    (strictness : Strictness) : Code (compoundBody x inits strictness) := by
  have condition : WordText "let tlv::TlvItemValue::List(_fields) = inp" := .of_run (by decide)
  have item : WordText rootItem := .of_run (by decide)
  have wire : WordText "inp" := .of_run (by decide)
  have line := code_itemLine item 0 wire inits
  have value := code_success strictness (code_block name.wordText.atom_of_word inside).atom
  have mismatch := code_mismatch strictness (x := "Expected struct fields") (.of_run (by decide))
  exact code_ifElse condition.atom_of_word (code_line (line.append value).atom)
    (code_line mismatch.atom)

theorem code_payload {p : Payload} (type : Code p.type.text) (name : IsWord p.type.name)
    (decoder : IsWord p.decoder) (doc : Fits .comment .comment p.doc) (inits : Code p.inits.text) :
    Code p.text := by
  have wire : WordText "inp" := .of_run (by decide)
  have lineBreak : Code "\n" := .of_run (by decide)
  have head := code_decoderSignature decoder.wordText wire name.wordText.atom_of_word
  exact ((type.append lineBreak).append (code_docLine doc)).append
    (code_publicFunction head.atom (code_compoundBody name inits .required))

end Payloads

/-! ## Attributes -/

section Attributes

variable {r : Resolved}

theorem code_singleBody_leaf (l : Leaf) (strictness : Strictness) :
    Code (l.singleBody strictness) := by
  have tag : Fits .string .string l.wire.text := by
    cases l.wire <;> exact .of_run (by decide)
  have message : Fits .string .string ("Expected " ++ l.wire.text) :=
    Fits.append (b := .string) (.of_run (by decide)) tag
  have condition : WordText ("let " ++ l.pattern ++ " = inp") := by
    refine .of_parts [.fixed "let ", .code, .fixed " = inp"] [l.pattern] (by decide)
      ⟨code_pattern l, rfl⟩ ?_
    simp only [fill, String.append_assoc, String.append_empty]
  have mismatch := code_line (code_mismatch strictness message).atom
  unfold Leaf.singleBody
  refine code_ifElse condition.atom_of_word (code_line ?_) mismatch
  split
  · next e =>
      -- The optional variant is followed by a call, so it has to end with a bracket.
      have v : WordText "*v" := .of_run (by decide)
      have call : Fits .ground .ground ".ok_or_else(|| anyhow::anyhow!(\"Invalid enum value\"))" :=
        .of_run (by decide)
      exact ((code_convert v.atom_of_word e).append call).atom
  · next e =>
      exact (code_success .required (atom_matched (.enum e))).atom
  · exact (code_success strictness (atom_matched l)).atom

theorem code_singleBody (shape : Shape r) (strictness : Strictness) :
    Code (shape.singleBody strictness) := by
  cases shape with
  | leaf l => exact code_singleBody_leaf l strictness
  | struct t =>
      exact code_compoundBody (isWord_typeName_struct t.decl) (code_compoundInits r _ _) strictness

/-- The parenthesis that stands open before the steps is closed at their end. -/
theorem run_listSteps (shape : Shape r) (opened : List Bracket) :
    LexState.run ⟨.ground, .round :: opened⟩
      (".iter()\n" ++ ((r.layout shape).elements 0).text ++ ".collect())\n").toList =
        some ⟨.ground, opened⟩ := by
  have scanned : scan ⟨.ground, [.round]⟩ [.fixed ".iter()\n", .code, .fixed ".collect())\n"] =
      some ⟨.ground, []⟩ := by
    decide
  have fits : AllFit [.fixed ".iter()\n", .code, .fixed ".collect())\n"]
      [((r.layout shape).elements 0).text] := ⟨code_elements 0 (r.layout shape), rfl⟩
  rcases run_fill scanned fits .refl opened with ⟨m, refines, read⟩
  cases refines
  simpa only [fill, String.append_assoc, String.append_empty, List.cons_append, List.nil_append]
    using read

theorem code_listBody (shape : Shape r) : Code shape.listBody := by
  have condition : WordText "let tlv::TlvItemValue::List(list) = inp" := .of_run (by decide)
  have none : Code "Ok(Vec::new())\n" := .of_run (by decide)
  refine code_ifElse condition.atom_of_word ?_ none
  -- The steps are indented with the parenthesis of `Ok(` open, so no template covers both lines.
  intro opened
  have front :
      LexState.run ⟨.ground, opened⟩ "Ok(list\n".toList = some ⟨.ground, .round :: opened⟩ :=
    LexState.run_within (s := ⟨.ground, []⟩) (t := ⟨.ground, [.round]⟩) (by decide)
  refine ⟨.ground, .refl, ?_⟩
  rw [String.toList_append, LexState.run_append, front, Option.bind_some, indent,
    String.toList_ofList]
  exact run_indentedLines (run_listSteps shape opened) 1

theorem fits_asciiName {message : String} (inside : Fits .string .string message) (name : String) :
    Fits .string .string (Quoted.asciiEscape name ++ ": " ++ message) := by
  have colon : Fits .string .string ": " := .of_run (by decide)
  exact ((fits_asciiEscape name).append colon).append inside

/-- A decoder that always fails does so for a list that cannot be read. -/
theorem reason_of_stub {s : Settings} {a : Attribute} {reason : Omission}
    (found : r.decoderKind? s a = some (.stub reason)) :
    reason = .missingEntryType ∨ reason = .nestedList := by
  unfold Resolved.decoderKind? at found
  split at found
  · split at found
    · cases found
    · split at found
      · cases found
      · cases found
  · cases found
    exact .inl rfl
  · cases found
    exact .inr rfl
  · cases found
  · cases found

theorem atom_kind_typeText (kind : DecoderKind r) : Atom kind.typeText := by
  cases kind with
  | optional shape => exact (code_optionText (atom_typeText_shape shape)).atom
  | required shape => exact atom_typeText_shape shape
  | list shape => exact (code_vec (atom_typeText_shape shape)).atom
  | stub reason =>
      have unit : Code "()" := .of_run (by decide)
      exact unit.atom

theorem isWord_attributeDecoder (a : Attribute) : IsWord a.decoder := by
  have front : IsWord "decode_" := by decide
  exact front.append (isWord_ident a.field).parts

theorem code_attributeDecoder {s : Settings} {d : AttributeDecoder r}
    (found : r.decoderKind? s d.attr = some d.kind) (name : OneLine d.attr.name)
    (id : OneLine d.attr.id) : Code d.text := by
  have doc : Code (docLine ("Decode " ++ d.attr.name ++ " attribute (" ++ d.attr.id ++ ")")) :=
    code_docLine (name.docs id (by decide))
  have body : Code d.body := by
    unfold AttributeDecoder.body
    split
    · next shape _ => exact code_singleBody shape .optional
    · next shape _ => exact code_singleBody shape .required
    · next shape _ => exact code_listBody shape
    · next reason stub =>
        refine code_line (code_failure (fits_asciiName ?_ d.attr.name)).atom
        rcases reason_of_stub (stub ▸ found) with rfl | rfl
        · exact .of_run (by decide)
        · exact .of_run (by decide)
  have note : Code d.note := by
    unfold AttributeDecoder.note
    split
    · next reason stub =>
        have empty : Code "///\n" := .of_run (by decide)
        refine empty.append (code_docLine ?_)
        rcases reason_of_stub (stub ▸ found) with rfl | rfl
        · exact .of_run (by decide)
        · exact .of_run (by decide)
    · exact .empty
  have argument : WordText d.argument := by
    unfold AttributeDecoder.argument
    split
    · exact .of_run (by decide)
    · exact .of_run (by decide)
  have head := code_decoderSignature (isWord_attributeDecoder d.attr).wordText argument
    (atom_kind_typeText d.kind)
  exact (doc.append note).append (code_publicFunction head.atom body)

/-! ## Dispatch -/

theorem code_errorFormat {argument : String} (word : WordText argument) (message : String) :
    Code (errorFormat message argument) := by
  refine .of_parts [.fixed "format!(", .hole .ground .stringEnd, .fixed ", ", .word, .fixed ")"]
    [Quoted.quote ("\x7b\x7b\"error\": \"" ++ message ++ "\"\x7d\x7d"), argument] (by decide)
    ⟨fits_quote _, word, rfl⟩ ?_
  unfold errorFormat
  simp only [fill, String.append_assoc, String.append_empty]

theorem code_hexText {source : String} (word : WordText source) : Code (hexText source) := by
  refine .of_parts [.word, .fixed ".iter().map(|b| format!(", .hole .ground .stringEnd,
    .fixed ", b)).collect::<String>()"] [source, Quoted.quote "\x7b:02x\x7d"] (by decide)
    ⟨word, fits_quote _, rfl⟩ ?_
  unfold hexText
  simp only [fill, String.append_assoc, String.append_empty]

theorem atom_jsonSource (kind : DecoderKind r) : Atom kind.jsonSource := by
  have bytes : Code (hexText "bytes") := code_hexText (.of_run (by decide))
  unfold DecoderKind.jsonSource
  split
  · refine Fits.atom ?_
    refine .of_parts [.fixed "value.map(|bytes| ", .code, .fixed ")"] [hexText "bytes"] (by decide)
      ⟨bytes, rfl⟩ ?_
    simp only [fill, String.append_assoc, String.append_empty]
  · exact (code_hexText (.of_run (by decide))).atom
  · refine Fits.atom ?_
    refine .of_parts [.fixed "value.iter().map(|bytes| ", .code, .fixed ").collect::<Vec<_>>()"]
      [hexText "bytes"] (by decide) ⟨bytes, rfl⟩ ?_
    simp only [fill, String.append_assoc, String.append_empty]
  · exact Fits.atom_of_word (.of_run (by decide))

theorem code_jsonArm (arm : JsonArm r) : Code arm.text := by
  have decoder := isWord_attributeDecoder arm.decoder.attr
  have head :
      Code (idText arm.id ++ " => match " ++ arm.decoder.attr.decoder ++ "(tlv_value)") := by
    refine .of_parts [.atom, .fixed " => match ", .word, .fixed "(tlv_value)"]
      [idText arm.id, arm.decoder.attr.decoder] (by decide)
      ⟨atom_hexId _, decoder.wordText, rfl⟩ ?_
    simp only [fill, String.append_assoc, String.append_empty]
  have back : Code ",\n" := .of_run (by decide)
  unfold JsonArm.text
  refine (code_block head.atom ?_).append back
  refine .of_parts [.fixed "Ok(value) => serde_json::to_string(&", .atom,
    .fixed ").unwrap_or_else(|_| \"null\".to_string()),\n", .fixed "Err(e) => ", .code,
    .fixed ",\n"] [arm.decoder.kind.jsonSource, errorFormat "\x7b\x7d" "e"] (by decide +kernel)
    ⟨atom_jsonSource _, code_errorFormat (.of_run (by decide)) _, rfl⟩ ?_
  simp only [fill, String.append_assoc, String.append_empty]

theorem oneLine_idText (id : UInt32) : OneLine (idText id) := by
  constructor
  · intro inside
    exact absurd (Numeral.mem_hexId inside) (by decide)
  · intro inside
    exact absurd (Numeral.mem_hexId inside) (by decide)

theorem code_fixedDoc (text : String) (read : OneLine text) : Code (docLine text) :=
  code_docLine read.fits

theorem code_dispatcher (s : Settings) (attrs : List Attribute) :
    Code (r.dispatcherText s attrs) := by
  have id := (oneLine_idText r.cluster.id).fits
  have clusterId : Code (docLine ("* `cluster_id` - The cluster identifier; must be " ++
      idText r.cluster.id)) :=
    code_docLine (Fits.append (b := .comment) (.of_run (by decide)) id)
  have otherCluster : Code (block ("if cluster_id != " ++ idText r.cluster.id)
      ("return " ++ errorFormat ("Invalid cluster ID. Expected " ++ idText r.cluster.id ++
        ", got \x7b\x7d") "cluster_id" ++ ";\n")) := by
    have front : Fits .ground .ground "if cluster_id != " := .of_run (by decide)
    have argument : WordText "cluster_id" := .of_run (by decide)
    have message := code_errorFormat argument
      ("Invalid cluster ID. Expected " ++ idText r.cluster.id ++ ", got \x7b\x7d")
    refine code_block (front.append (atom_hexId _)) ?_
    refine .of_parts [.fixed "return ", .code, .fixed ";\n"] [_] (by decide) ⟨message, rfl⟩ ?_
    simp only [fill, String.append_assoc, String.append_empty]
  have arms : Code (String.join ((r.jsonArms s attrs).map JsonArm.text) ++ "_ => " ++
      errorFormat "Unknown attribute ID: \x7b\x7d" "attribute_id" ++ ",\n") := by
    have argument : WordText "attribute_id" := .of_run (by decide)
    have message := code_errorFormat argument "Unknown attribute ID: \x7b\x7d"
    have inside : Code (String.join ((r.jsonArms s attrs).map JsonArm.text)) :=
      .join_map fun arm _ => code_jsonArm arm
    refine .of_parts [.code, .fixed "_ => ", .code, .fixed ",\n"] [_, _] (by decide)
      ⟨inside, message, rfl⟩ ?_
    simp only [fill, String.append_assoc, String.append_empty]
  have choice : WordText "match attribute_id" := .of_run (by decide)
  have lineBreaks : Code "\n\n" := .of_run (by decide)
  have signature : WordText dispatcherSignature := .of_run (by decide +kernel)
  have function := code_publicFunction signature.atom_of_word
    (code_line ((otherCluster.append lineBreaks).append (code_block choice.atom_of_word arms)).atom)
  have empty : Code "///\n" := .of_run (by decide)
  have title := code_fixedDoc "Decode attribute value and return as JSON string" (by decide)
  have parameters := ((((title.append empty).append
    (code_fixedDoc "# Parameters" (by decide))).append clusterId).append
    (code_fixedDoc "* `attribute_id` - The attribute identifier" (by decide))).append
    (code_fixedDoc "* `tlv_value` - The TLV value to decode" (by decide))
  have docs := ((parameters.append empty).append (code_fixedDoc "# Returns" (by decide))).append
    (code_fixedDoc "JSON string representation of the decoded value or error" (by decide))
  unfold Resolved.dispatcherText
  exact docs.append function

theorem code_attributeList (attrs : List Attribute) : Code (attributeListText attrs) := by
  have list {entries : String} (inside : Code entries) :
      Code ("vec![\n" ++ indent 1 entries ++ "]\n") := by
    refine .of_parts [.fixed "vec![\n", .code, .fixed "]\n"] [_] (by decide)
      ⟨inside.indent 1, rfl⟩ ?_
    simp only [fill, String.append_assoc, String.append_empty]
  have signature : Code (attributeListName ++ "() -> Vec<(u32, &'static str)>") :=
    .of_run (by decide +kernel)
  have empty : Code "///\n" := .of_run (by decide)
  unfold attributeListText
  refine ((((code_fixedDoc _ (by decide)).append empty).append (code_fixedDoc _ (by decide))).append
    (code_fixedDoc _ (by decide))).append (code_publicFunction signature.atom (list ?_))
  refine .join_map fun entry _ => ?_
  rcases entry with ⟨id, a⟩
  refine .of_parts [.fixed "(", .atom, .fixed ", ", .hole .ground .stringEnd, .fixed "),\n"]
    [idText id, Quoted.quote a.name] (by decide) ⟨atom_hexId _, fits_quote _, rfl⟩ ?_
  simp only [fill, String.append_assoc, String.append_empty]

end Attributes
end Lexical
end ClusterCodec

import ClusterCodec.Batch.GeneratedModule
import ClusterCodec.Proofs.AttributeRun
import ClusterCodec.Proofs.EmittedDefinitions
import ClusterCodec.Proofs.ModulePieces

/-!
# ModuleTokens — every generated module falls into tokens

- `Item.Printable`: no line break reaches the documentation, and identifiers are words.
- `EnumDecl.isWord_addItem`, `BitmapDecl.isWord_addFlag`: what is added to a declaration has a word.
- `code_definition`, `code_section`, `code_body`, `code_source`: from an item to the whole module.
- `code_oneBreakAtEnd`: line breaks may be dropped at the end.
- `Cluster.printable_resolve`: settling declarations keeps words.
- `Cluster.tokenizes_source`: the module of every such cluster falls into tokens;
  `Cluster.checkTokens_source`: so it is accepted.
-/

namespace ClusterCodec

open Text Lexical

/-! ## Items -/

/-- What is written into documentation has no line break, what is written as an identifier is a word
(as `addItem` and `addFlag` make it), and no default is a hexadecimal number with a sign. -/
def Item.Printable : Item → Prop
  | .enum e => ∀ i ∈ e.items, IsWord i.variant
  | .bitmap b => ∀ f ∈ b.flags, IsWord f.constant
  | .struct _ => True
  | .command c =>
    OneLine c.name ∧ OneLine c.id ∧ ∀ f ∈ c.fields, PlainDefault f.defaultText
  | .attr a => OneLine a.name ∧ OneLine a.id
  | .response p => OneLine p.name ∧ OneLine p.id
  | .event e => OneLine e.name ∧ OneLine e.id ∧ OneLine e.priority

theorem EnumDecl.isWord_addItem {e : EnumDecl} (words : ∀ i ∈ e.items, IsWord i.variant)
    (value : UInt64) (name summary : String) :
    ∀ i ∈ (e.addItem value name summary).items, IsWord i.variant := by
  intro i listed
  rcases List.mem_append.1 listed with listed | listed
  · exact words i listed
  · cases List.mem_singleton.1 listed
    dsimp only
    exact isWord_ofVariant name

theorem BitmapDecl.isWord_addFlag {b : BitmapDecl} (words : ∀ f ∈ b.flags, IsWord f.constant)
    (position : UInt32) (name summary : String) :
    ∀ f ∈ (b.addFlag position name summary).flags, IsWord f.constant := by
  intro f listed
  rcases List.mem_append.1 listed with listed | listed
  · exact words f listed
  · cases List.mem_singleton.1 listed
    dsimp only
    exact isWord_ofConstant name

namespace Resolved

variable {r : Resolved} {s : Settings}

theorem code_enum {e : EnumDecl} (words : ∀ i ∈ e.items, IsWord i.variant) :
    Code e.enumType.text := by
  have name : IsWord e.enumType.name := by
    simp only [EnumDecl.enumType]
    exact isWord_typeName_enum e
  refine code_enumType name fun v listed => ?_
  rcases List.mem_map.1 listed with ⟨i, distinct, rfl⟩
  exact words i ((keepFirst_sublist _ _).subset distinct)

theorem code_bitmap {b : BitmapDecl} (words : ∀ f ∈ b.flags, IsWord f.constant) :
    Code b.bitmapType.text := by
  have name : IsWord b.bitmapType.name := by
    simp only [BitmapDecl.bitmapType]
    exact isWord_typeName_bitmap b
  have moduleName : IsWord b.bitmapType.moduleName := by
    simp only [BitmapDecl.bitmapType, BitmapDecl.moduleName]
    exact isWord_ofField _
  refine code_bitmapType name moduleName fun c listed => ?_
  rcases List.mem_filterMap.1 listed with ⟨f, member, mask⟩
  rcases Option.map_eq_some_iff.1 mask with ⟨value, -, rfl⟩
  exact words f member

theorem code_command {c : Command} {e : CommandEncoder} (name : OneLine c.name) (id : OneLine c.id)
    (plain : ∀ f ∈ c.fields, PlainDefault f.defaultText) (found : r.commandEncoder? s c = some e) :
    Code e.text := by
  rcases Option.ite_none_left_eq_some.1 found with ⟨-, found⟩
  have function : IsWord c.encoder := by
    have front : IsWord "encode_" := by decide
    exact front.append (isWord_ofField c.name).parts
  have paramsType : IsWord c.paramsType := by
    have back : ∀ c ∈ "Params".toList, isWordPart c = true := by decide
    exact (isWord_ofType _ _ _).append back
  have access : (if r.usesParamsType s c then "params." else "") = "params." ∨
      (if r.usesParamsType s c then "params." else "") = "" := by
    split
    · exact .inl rfl
    · exact .inr rfl
  cases found
  refine code_commandEncoder name id function ?_ ?_
  · intro t listed
    rcases Option.ite_none_right_eq_some.1 listed with ⟨-, same⟩
    cases same
    exact paramsType
  · intro p listed
    rcases List.mem_map.1 listed with ⟨m, member, rfl⟩
    exact printable_commandParam access m (plain _ (fieldShape_of_mem_members member).1)

theorem code_payload_of_fields {typeName decoder doc : String} {fields : List Field} {p : Payload}
    (type : IsWord typeName) (function : IsWord decoder) (docs : Fits .comment .comment doc)
    (found : r.payload? typeName decoder doc fields = some p) : Code p.text := by
  rcases Option.ite_none_left_eq_some.1 found with ⟨-, found⟩
  cases found
  exact code_payload (code_recordType_members type none fields) type function docs
    (code_compoundInits r none fields)

theorem code_response {p : Response} {payload : Payload} (name : OneLine p.name) (id : OneLine p.id)
    (found : r.responsePayload? p = some payload) : Code payload.text := by
  have front : IsWord "decode_" := by decide
  have type : IsWord p.typeName := by
    rw [Response.typeName]
    exact isWord_ofType _ _ _
  refine code_payload_of_fields type (front.append (isWord_ofField p.name).parts) ?_ found
  exact name.docs id (by decide)

theorem code_event {e : Event} {payload : Payload} (name : OneLine e.name) (id : OneLine e.id)
    (priority : OneLine e.priority) (found : r.eventPayload? e = some payload) :
    Code payload.text := by
  have front : IsWord "decode_" := by decide
  have back : ∀ c ∈ "_event".toList, isWordPart c = true := by decide
  have decoder := (front.append (isWord_ofField e.name).parts).append back
  have typeBack : ∀ c ∈ "Event".toList, isWordPart c = true := by decide
  have type := (isWord_ofType (Name.pascal e.name) "" true).append typeBack
  have doc : Fits .comment .comment ("Decode " ++ e.name ++ " event (" ++ e.id ++ ", priority: ") :=
    name.docs id (by decide)
  have close : Fits .comment .comment ")" := .of_run (by decide)
  exact code_payload_of_fields type decoder ((doc.append priority.fits).append close) found

theorem code_definition {i : Item} {d : Definition r} (printable : i.Printable)
    (found : r.definition? s i = some d) : Code d.text := by
  cases i with
  | enum e =>
      cases found
      exact code_enum printable
  | bitmap b =>
      cases found
      exact code_bitmap printable
  | struct t =>
      cases found
      exact code_recordType_members (isWord_typeName_struct t) _ _
  | command c =>
      rcases Option.map_eq_some_iff.1 found with ⟨e, encoder, rfl⟩
      exact code_command printable.1 printable.2.1 printable.2.2 encoder
  | attr a =>
      rcases Option.map_eq_some_iff.1 found with ⟨d, decoder, rfl⟩
      rcases Option.map_eq_some_iff.1 decoder with ⟨kind, ofKind, rfl⟩
      exact code_attributeDecoder ofKind printable.1 printable.2
  | response p =>
      rcases Option.map_eq_some_iff.1 found with ⟨payload, decoder, rfl⟩
      exact code_response printable.1 printable.2 decoder
  | event e =>
      rcases Option.map_eq_some_iff.1 found with ⟨payload, decoder, rfl⟩
      exact code_event printable.1 printable.2.1 printable.2.2 decoder

/-! ## Sections -/

variable (s) in
theorem code_emittedParts (printable : ∀ i ∈ r.cluster.items, i.Printable) {kind : ItemKind}
    {part : String} (inside : part ∈ r.emittedParts (r.outcomes s) kind) : Code part := by
  rcases List.mem_filterMap.1 inside with ⟨⟨i, o⟩, listed, ofKind⟩
  rcases Option.ite_none_right_eq_some.1 ofKind with ⟨-, emitted⟩
  rcases Option.map_eq_some_iff.1 emitted with ⟨d, hd, rfl⟩
  -- What is emitted is the definition of the item, whatever names were taken before it.
  cases definition?_eq_some_iff.1 hd
  exact code_definition (printable i (mem_of_mem_outcomesFrom listed))
    (definition?_of_mem_outcomesFrom listed)

theorem code_extraParts {outcomes : List (Item × Outcome r)} {kind : ItemKind} {part : String}
    (inside : part ∈ r.extraParts s outcomes kind) : Code part := by
  cases kind with
  | attr =>
      rw [extraParts] at inside
      split at inside
      · rcases List.mem_cons.1 inside with rfl | inside
        · exact code_dispatcher s _
        · cases List.mem_singleton.1 inside
          exact code_attributeList _
      · cases inside
  | _ => cases inside

theorem code_section {part : ModuleSection} (parts : ∀ text ∈ part.parts, Code text) :
    Code part.text := by
  have title : Code ("// " ++ part.kind.sectionTitle ++ "\n\n") := by
    cases part.kind <;> exact .of_run (by decide)
  exact title.append (.join_map fun code inside => code_line (parts code inside).atom)

theorem code_body (printable : ∀ i ∈ r.cluster.items, i.Printable) : Code (r.body s) := by
  refine .join_map fun part inside => ?_
  rcases List.mem_map.1 (List.mem_filter.1 inside).1 with ⟨kind, -, rfl⟩
  refine code_section fun text listed => ?_
  rcases List.mem_append.1 listed with listed | listed
  · exact code_emittedParts s printable listed
  · exact code_extraParts listed

/-! ## Above the sections -/

theorem code_moduleHeader (c : Cluster) {file : String} (oneLine : OneLine file) :
    Code (moduleHeader c file) := by
  have front : Code ("//! Matter TLV encoders and decoders for " ++ Text.oneLine c.name ++ "\n" ++
      "//! Cluster ID: " ++ Text.oneLine c.idText ++ "\n" ++ "//!\n") := by
    refine .of_parts [.fixed "//! Matter TLV encoders and decoders for ", .inComment, .fixed "\n",
      .fixed "//! Cluster ID: ", .inComment, .fixed "\n", .fixed "//!\n"]
      [Text.oneLine c.name, Text.oneLine c.idText] (by decide +kernel)
      ⟨fits_oneLine _, fits_oneLine _, rfl⟩ ?_
    simp only [fill, String.append_assoc, String.append_empty]
  refine front.append ?_
  split
  · exact .of_run (by decide +kernel)
  · refine .of_parts [.fixed "//! This file is automatically generated from ", .inComment,
      .fixed "\n\n"] [file] (by decide +kernel) ⟨oneLine.fits, rfl⟩ ?_
    simp only [fill, String.append_assoc, String.append_empty]

theorem wordText_hexHelper (helper : HexHelper) : WordText helper.text := by
  cases helper <;> exact .of_run (by decide)

theorem code_helperImport (path : WordText s.helpersPath) (body : String) :
    Code (helperImport s body) := by
  unfold helperImport
  split
  · exact .empty
  · next one _ =>
      refine .of_parts [.fixed "use ", .word, .fixed "::", .word, .fixed ";\n"]
        [s.helpersPath, one.text] (by decide) ⟨path, wordText_hexHelper one, rfl⟩ ?_
      simp only [fill, String.append_assoc, String.append_empty]
  · next many _ _ =>
      have between : Fits .complete .ground ", " := .of_run (by decide)
      have names : Atom (", ".intercalate ((usedHelpers body).map HexHelper.text)) :=
        .intercalate_map (fun helper _ => (wordText_hexHelper helper).atom_of_word) between .ground
      refine .of_parts [.fixed "use ", .word, .fixed "::\x7b", .atom, .fixed "\x7d;\n"]
        [s.helpersPath, _] (by decide) ⟨path, names, rfl⟩ ?_
      simp only [fill, String.append_assoc, String.append_empty]

theorem code_tlvImport (path : s.tlvPath = "crate::tlv") : Code s.tlvImport := by
  have module : s.tlvModule = "crate::tlv".toList := by
    rw [Settings.tlvModule, path]
    decide
  rw [Settings.tlvImport, module]
  exact .of_run (by decide)

theorem code_moduleImports (wire : Code s.tlvImport) (helpers : WordText s.helpersPath)
    (body : String) : Code (moduleImports s body) := by
  have front : Code (if occursIn "tlv::".toList body.toList then s.tlvImport ++ "\n" else "") := by
    split
    · exact code_line wire.atom
    · exact .empty
  exact front.append (code_helperImport helpers body)

/-! ## The whole text -/

/-- After a line break nothing is open but brackets, so a second one may be dropped. -/
theorem run_oneBreakAtFront (st : LexState) (cs : List Char) :
    st.run (oneBreakAtFront cs).reverse = st.run cs.reverse := by
  fun_induction oneBreakAtFront cs with
  | case1 cs ih =>
      rw [ih]
      simp only [List.reverse_cons]
      rw [LexState.run_append _ (cs.reverse ++ ['\n'])]
      cases read : st.run (cs.reverse ++ ['\n']) with
      | none => rfl
      | some t =>
          rw [LexState.run_append] at read
          rcases Option.bind_eq_some_iff.1 read with ⟨u, -, last⟩
          rcases Option.bind_eq_some_iff.1 last with ⟨v, last, same⟩
          cases same
          have ground := mode_of_break last
          rcases t with ⟨mode, opened⟩
          cases ground
          rfl
  | case2 cs other => rfl

theorem code_oneBreakAtEnd {text : String} (code : Code text) : Code (oneBreakAtEnd text) := by
  intro opened
  rcases code opened with ⟨n, refines, read⟩
  refine ⟨n, refines, ?_⟩
  rw [oneBreakAtEnd, String.toList_ofList, run_oneBreakAtFront, List.reverse_reverse]
  exact read

theorem code_source (printable : ∀ i ∈ r.cluster.items, i.Printable) (wire : Code s.tlvImport)
    (helpers : WordText s.helpersPath) {file : String} (oneLine : OneLine file) :
    Code (r.source s file) := by
  have imports := code_moduleImports wire helpers (r.body s)
  have spaced : Code (if (moduleImports s (r.body s)).isEmpty then ""
      else moduleImports s (r.body s) ++ "\n") := by
    split
    · exact .empty
    · exact code_line imports.atom
  exact code_oneBreakAtEnd
    (((code_moduleHeader r.cluster oneLine).append spaced).append (code_body printable))

/-- A text without a mark at its front falls into tokens if it can be read. -/
theorem tokenizes_of_code {text : String} (code : Code text) : tokenizes text = true := by
  -- The tokenizer drops a byte order mark, which is read here as no token.
  rcases code [] with ⟨n, refines, read⟩
  cases refines
  have unmarked : withoutMark text.toList = text.toList := by
    rw [withoutMark.eq_def]
    split
    · next rest marked =>
        rw [marked] at read
        cases read
    · rfl
  rw [tokenizes, unmarked]
  exact tokenizesFrom_of_reads read

end Resolved

/-! ## Settled declarations -/

theorem Resolve.mem_renameRepeats {α : Type} {ident : α → String} {rename : α → α} {b : α}
    {seen : List String} {l : List α} (h : b ∈ renameRepeats ident rename seen l) :
    ∃ a ∈ l, b = a ∨ b = rename a := by
  induction l generalizing seen with
  | nil => cases h
  | cons a l ih =>
      rcases List.mem_cons.1 h with rfl | h
      · refine ⟨a, List.mem_cons_self, ?_⟩
        split
        · exact .inr rfl
        · exact .inl rfl
      · rcases ih h with ⟨a', inside, same⟩
        exact ⟨a', List.mem_cons_of_mem a inside, same⟩

theorem EnumDecl.isWord_withDistinctVariants {e : EnumDecl}
    (words : ∀ i ∈ e.items, IsWord i.variant) :
    ∀ i ∈ e.withDistinctVariants.items, IsWord i.variant := by
  intro i listed
  rcases Resolve.mem_renameRepeats listed with ⟨j, inside, rfl | rfl⟩
  · exact words i inside
  · exact (words j inside).append_decimal _

theorem BitmapDecl.isWord_withDistinctConstants {b : BitmapDecl}
    (words : ∀ f ∈ b.flags, IsWord f.constant) :
    ∀ f ∈ b.withDistinctConstants.flags, IsWord f.constant := by
  intro f listed
  have underscore : ∀ c ∈ "_".toList, isWordPart c = true := by decide
  rcases Resolve.mem_renameRepeats listed with ⟨g, inside, rfl | rfl⟩
  · exact words f inside
  · exact ((words g inside).append underscore).append_decimal _

namespace Cluster

variable {c : Cluster}

theorem printable_resolve (printable : ∀ i ∈ c.items, i.Printable) :
    ∀ i ∈ c.resolve.cluster.items, i.Printable := by
  -- Only types are settled.
  have attributes : c.resolve.cluster.attributes = c.attributes := rfl
  have commands : c.resolve.cluster.commands = c.commands := rfl
  have responses : c.resolve.cluster.responses = c.responses := rfl
  have events : c.resolve.cluster.events = c.events := rfl
  intro i inside
  cases i with
  | struct d => trivial
  | attr a => exact printable _ (by simpa [Cluster.items, attributes] using inside)
  | command d => exact printable _ (by simpa [Cluster.items, commands] using inside)
  | response p => exact printable _ (by simpa [Cluster.items, responses] using inside)
  | event e => exact printable _ (by simpa [Cluster.items, events] using inside)
  | enum e =>
      have listed : e ∈ c.resolve.cluster.enums.toList := by simpa [Cluster.items] using inside
      rcases List.mem_map.1 listed with ⟨settled, inTable, rfl⟩
      rcases List.mem_map.1 inTable with ⟨declared, given, rfl⟩
      have words : ∀ i ∈ declared.items, IsWord i.variant :=
        printable (.enum declared) (by simpa [Cluster.items] using given)
      refine EnumDecl.isWord_withDistinctVariants ?_
      unfold Resolve.settleEnum
      split
      · exact words
      · exact words
  | bitmap b =>
      have listed : b ∈ c.resolve.cluster.bitmaps.toList := by simpa [Cluster.items] using inside
      rcases List.mem_map.1 listed with ⟨settled, inTable, rfl⟩
      rcases List.mem_map.1 inTable with ⟨declared, given, rfl⟩
      have words : ∀ f ∈ declared.flags, IsWord f.constant :=
        printable (.bitmap declared) (by simpa [Cluster.items] using given)
      refine BitmapDecl.isWord_withDistinctConstants ?_
      unfold Resolve.settleBitmap
      split
      · exact words
      · exact words

/-- With the default paths the module falls into tokens. -/
theorem tokenizes_source (printable : ∀ i ∈ c.items, i.Printable) {s : Settings}
    (tlv : s.tlvPath = "crate::tlv") (helpers : s.helpersPath = "crate::clusters::helpers")
    {file : String} (oneLine : OneLine file) : tokenizes (c.resolve.source s file) = true := by
  have path : WordText s.helpersPath := by
    rw [helpers]
    exact .of_run (by decide)
  exact Resolved.tokenizes_of_code
    (Resolved.code_source (printable_resolve printable) (Resolved.code_tlvImport tlv) path oneLine)

/-- Every generated module falls into tokens, with the default paths and whatever the other options
are. -/
theorem checkTokens_source (printable : ∀ i ∈ c.items, i.Printable) {file : String}
    (oneLine : OneLine file) (strictAttributes : Bool) (maxPositionalParams : Nat)
    (moduleFile : Bool) (moduleName : String) :
    checkTokens moduleName
        (c.resolve.source { strictAttributes, maxPositionalParams, moduleFile } file) =
      .ok (c.resolve.source { strictAttributes, maxPositionalParams, moduleFile } file) := by
  rw [checkTokens]
  exact if_pos (tokenizes_source printable rfl rfl oneLine)

end Cluster

/-! ## A cluster with each kind of text -/

def switchMode : EnumDecl :=
  EnumDecl.addItem { name := "ModeEnum" } 2 "2-wire dimmer" "Two\nwires"

def switchFeature : BitmapDecl :=
  BitmapDecl.addFlag { name := "FeatureBitmap" } 0 "Dimming" ""

def moveToLevel : Command :=
  { id := "0x00"
    name := "MoveToLevel"
    fields := [{
      id := 0, name := "Level", typeName := "uint8", defaultText := some " 0x1F",
      nullable := true }] }

def wallSwitch : Cluster :=
  { Cluster.ofHeader "0x0006" "Wall\nswitch" with
    enums := (∅ : SymbolTable EnumDecl).insert switchMode
    bitmaps := (∅ : SymbolTable BitmapDecl).insert switchFeature
    commands := [moveToLevel]
    attributes := [⟨"0x0000", { id := 0, name := "Mode", typeName := "ModeEnum" }⟩]
    events := [{ id := "0x01", name := "Failed", priority := "critical" }] }

theorem printable_wallSwitch : ∀ i ∈ wallSwitch.items, i.Printable := by
  have items : wallSwitch.items = [.enum switchMode, .bitmap switchFeature, .command moveToLevel,
      .attr ⟨"0x0000", { id := 0, name := "Mode", typeName := "ModeEnum" }⟩,
      .event { id := "0x01", name := "Failed", priority := "critical" }] := rfl
  rw [items]
  intro i inside
  simp only [List.mem_cons, List.not_mem_nil, or_false] at inside
  rcases inside with rfl | rfl | rfl | rfl | rfl
  · exact EnumDecl.isWord_addItem (fun i none => absurd none List.not_mem_nil) 2 _ _
  · exact BitmapDecl.isWord_addFlag (fun f none => absurd none List.not_mem_nil) 0 _ _
  · refine ⟨by decide, by decide, fun f inside t given digits mark => ?_⟩
    cases List.mem_singleton.1 inside
    cases given
    have declared : Numeral.afterHexMark? (trim " 0x1F").toList = some ['1', 'F'] := by decide
    rw [declared] at mark
    cases mark
    decide
  · exact ⟨by decide, by decide⟩
  · exact ⟨by decide, by decide, by decide⟩

theorem Cluster.checkTokens_source_wallSwitch :
    ((∀ i ∈ wallSwitch.items, i.Printable) ∧ OneLine "Switch.xml") ∧
      checkTokens "switch" (wallSwitch.resolve.source { strictAttributes := true } "Switch.xml") =
        .ok (wallSwitch.resolve.source { strictAttributes := true } "Switch.xml") := by
  have file : OneLine "Switch.xml" := by decide
  refine ⟨⟨printable_wallSwitch, file⟩, ?_⟩
  exact Cluster.checkTokens_source printable_wallSwitch file true 7 true "switch"

end ClusterCodec

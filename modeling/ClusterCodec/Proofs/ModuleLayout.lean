import ClusterCodec.Proofs.DocumentationErasure

/-!
# ModuleLayout — the sections of a module, put together item by item

- `endsLine_oneBreakAtEnd`: a text of whole lines ends with one line break.
- `OpenSection`, `Resolved.assembled`: each emitted item goes into the last section or opens a new one;
  the functions that reach attributes by id go into their section or open it at its place.
- `foldl_addItem_kinds`: what one item after another gives is one section for each kind with code.
- `Resolved.assembled_eq`: these are the sections of the module.
- `Resolved.SourceLayout`, `Resolved.source_layout`: the layout of the source text.
-/

namespace ClusterCodec

open Text

/-! ## Whole lines -/

/-- A text of whole lines ends with one line break, unless it holds nothing else. -/
theorem endsLine_oneBreakAtEnd {text : String} {c : Char} (mem : c ∈ text.toList)
    (notBreak : c ≠ '\n') (whole : WholeLines text) : EndsLine (oneBreakAtEnd text) := by
  rcases whole with rfl | ⟨front, rfl⟩
  · cases mem
  have inFront : c ∈ front.toList.reverse := by
    rw [String.toList_append, List.mem_append] at mem
    exact List.mem_reverse.2 (mem.resolve_right fun last => notBreak (List.mem_singleton.1 last))
  rcases exists_oneBreakAtFront_eq inFront notBreak with ⟨d, rest, other, kept⟩
  have reversed : (front ++ "\n").toList.reverse = '\n' :: front.toList.reverse := by
    simp
  refine ⟨rest.reverse, d, other, ?_⟩
  rw [oneBreakAtEnd, reversed, kept, String.toList_ofList]
  simp

/-! ## Assembling -/

/-- The position of a section among all sections. -/
def ItemKind.position (kind : ItemKind) : Nat :=
  all.idxOf kind

/-- The pieces of code of a section, each on lines of its own. -/
def piecesText (codes : List String) : String :=
  String.join (codes.map (· ++ "\n"))

/-- A section that is being put together, with its text so far. -/
structure OpenSection where
  kind : ItemKind
  text : String
  deriving Repr, DecidableEq

namespace OpenSection

/-- The text of the section with its comment. -/
def commented (part : OpenSection) : String :=
  "// " ++ part.kind.sectionTitle ++ "\n\n" ++ part.text

/-- Code goes into the last section if that has its kind, and into a new one otherwise. -/
def addCode (sections : List OpenSection) (kind : ItemKind) (code : String) : List OpenSection :=
  match sections.getLast? with
  | some last =>
    if last.kind = kind then sections.dropLast ++ [⟨kind, last.text ++ (code ++ "\n")⟩]
    else sections ++ [⟨kind, code ++ "\n"⟩]
  | none => [⟨kind, code ++ "\n"⟩]

/-- Text goes to the end of the section of attributes. If there is none, it opens one behind the
sections that come before it. -/
def addDispatch (sections : List OpenSection) (dispatch : String) : List OpenSection :=
  match sections.findIdx? fun part => decide (part.kind = .attr) with
  | some i => sections.modify i fun part => { part with text := part.text ++ dispatch }
  | none =>
    let before := sections.takeWhile fun part => decide (part.kind.position < ItemKind.attr.position)
    sections.insertIdx before.length ⟨.attr, dispatch⟩

/-- The section for some pieces of code; without any there is none. -/
def ofCodes (kind : ItemKind) (codes : List String) : List OpenSection :=
  if codes.isEmpty then [] else [⟨kind, piecesText codes⟩]

end OpenSection

namespace Resolved

open OpenSection

variable {r : Resolved} {s : Settings}

def addItem (sections : List OpenSection) (p : Item × Outcome r) : List OpenSection :=
  match p.2.definition? with
  | some d => addCode sections p.1.kind d.text
  | none => sections

variable (r s)

/-- The two functions that reach attributes by id. -/
def dispatchText : String :=
  r.dispatcherText s (r.routedAttributes s) ++ "\n" ++ attributeListText r.cluster.attributes ++ "\n"

/-- The sections that the items in their order and then the attributes give. -/
def assembled : List OpenSection :=
  let laid := (r.outcomes s).foldl addItem []
  if r.cluster.hasAttributes then addDispatch laid (r.dispatchText s) else laid

end Resolved

/-! ## One item after another -/

theorem piecesText_cons (code : String) (codes : List String) :
    piecesText (code :: codes) = code ++ "\n" ++ piecesText codes := by
  rw [piecesText, List.map_cons, String.join_cons, piecesText]

theorem piecesText_append (front back : List String) :
    piecesText (front ++ back) = piecesText front ++ piecesText back := by
  induction front with
  | nil => exact String.empty_append.symm
  | cons code front ih =>
      rw [List.cons_append, piecesText_cons, piecesText_cons, ih]
      simp only [String.append_assoc]

namespace OpenSection

theorem addCode_concat (sections : List OpenSection) (kind : ItemKind) (text code : String) :
    addCode (sections ++ [⟨kind, text⟩]) kind code = sections ++ [⟨kind, text ++ (code ++ "\n")⟩] := by
  rw [addCode, List.getLast?_concat]
  simp only [if_true, List.dropLast_concat]

theorem addCode_of_fresh {sections : List OpenSection} {kind : ItemKind}
    (fresh : ∀ part ∈ sections, part.kind ≠ kind) (code : String) :
    addCode sections kind code = sections ++ [⟨kind, code ++ "\n"⟩] := by
  rw [addCode]
  split
  · next last found => rw [if_neg (fresh last (List.mem_of_getLast? found))]
  · next none =>
      rw [List.getLast?_eq_none_iff.1 none]
      rfl

/-- Code of the kind of the last section all goes into it. -/
theorem foldl_addCode_concat (codes : List String) (sections : List OpenSection) (kind : ItemKind)
    (text : String) :
    codes.foldl (addCode · kind ·) (sections ++ [⟨kind, text⟩]) =
      sections ++ [⟨kind, text ++ piecesText codes⟩] := by
  induction codes generalizing text with
  | nil => simp [piecesText]
  | cons code codes ih =>
      rw [List.foldl_cons, addCode_concat, ih, piecesText_cons, String.append_assoc]

/-- The first code of a kind opens a section, and the rest goes into it. -/
theorem foldl_addCode_of_fresh {sections : List OpenSection} {kind : ItemKind}
    (fresh : ∀ part ∈ sections, part.kind ≠ kind) (codes : List String) :
    codes.foldl (addCode · kind ·) sections = sections ++ ofCodes kind codes := by
  cases codes with
  | nil => exact (List.append_nil _).symm
  | cons code codes =>
      rw [List.foldl_cons, addCode_of_fresh fresh, foldl_addCode_concat, ofCodes,
        List.isEmpty_cons, piecesText_cons]
      rfl

end OpenSection

namespace Resolved

open OpenSection

variable {r : Resolved} {s : Settings} {kind : ItemKind} {block : List (Item × Outcome r)}
  {sections : List OpenSection}

/-- The code of the emitted items among some items. -/
def codes (block : List (Item × Outcome r)) : List String :=
  block.filterMap fun p => p.2.definition?.map Definition.text

/-- Items of one kind give their code to the sections, one item after another. -/
theorem foldl_addItem_eq (same : ∀ p ∈ block, p.1.kind = kind) :
    block.foldl addItem sections = (codes block).foldl (addCode · kind ·) sections := by
  induction block generalizing sections with
  | nil => rfl
  | cons p block ih =>
      rw [List.foldl_cons, ih fun q listed => same q (.tail p listed), addItem, same p (.head _),
        codes, codes, List.filterMap_cons]
      cases p.2.definition? <;> rfl

/-- Blocks of different kinds give the sections of those kinds in the same order. -/
theorem foldl_addItem_kinds {kinds : List ItemKind} (nodup : kinds.Nodup)
    {blocks : ItemKind → List (Item × Outcome r)} (same : ∀ kind, ∀ p ∈ blocks kind, p.1.kind = kind)
    (fresh : ∀ part ∈ sections, part.kind ∉ kinds) :
    (kinds.flatMap blocks).foldl addItem sections =
      sections ++ kinds.flatMap fun kind => ofCodes kind (codes (blocks kind)) := by
  induction kinds generalizing sections with
  | nil => exact (List.append_nil _).symm
  | cons kind kinds ih =>
      rcases List.nodup_cons.1 nodup with ⟨absent, nodup⟩
      rw [List.flatMap_cons, List.foldl_append, foldl_addItem_eq (same kind),
        foldl_addCode_of_fresh fun part listed here => fresh part listed (here ▸ .head _),
        ih nodup, List.flatMap_cons, List.append_assoc]
      intro part listed
      rcases List.mem_append.1 listed with listed | opened
      · exact fun later => fresh part listed (.tail _ later)
      · rw [ofCodes] at opened
        split at opened
        · cases opened
        · cases List.mem_singleton.1 opened
          exact absent

end Resolved

/-! ## The functions of attributes -/

namespace OpenSection

variable {before after : List OpenSection}

/-- The text is put at the end of a section that is open. -/
theorem addDispatch_of_open (lower : ∀ part ∈ before, part.kind.position < ItemKind.attr.position)
    (text dispatch : String) :
    addDispatch (before ++ ⟨.attr, text⟩ :: after) dispatch =
      before ++ ⟨.attr, text ++ dispatch⟩ :: after := by
  have other : ∀ part ∈ before, decide (part.kind = .attr) = false := by
    intro part listed
    refine decide_eq_false fun same => ?_
    exact Nat.lt_irrefl _ (same ▸ lower part listed)
  have found : (before ++ ⟨.attr, text⟩ :: after).findIdx? (fun part => decide (part.kind = .attr)) =
      some before.length := by
    rw [List.findIdx?_append, List.findIdx?_eq_none_iff.2 other]
    simp [List.findIdx?_cons]
  rw [addDispatch, found]
  clear found other lower
  induction before with
  | nil => rfl
  | cons part before ih => exact congrArg (List.cons part) ih

/-- A section is opened between the lower and the higher ones. -/
theorem addDispatch_of_missing
    (lower : ∀ part ∈ before, part.kind.position < ItemKind.attr.position)
    (higher : ∀ part ∈ after, ItemKind.attr.position < part.kind.position) (dispatch : String) :
    addDispatch (before ++ after) dispatch = before ++ ⟨.attr, dispatch⟩ :: after := by
  -- A section of attributes would stand at its own position, which is neither lower nor higher.
  have missing : (before ++ after).findIdx? (fun part => decide (part.kind = .attr)) = none := by
    refine List.findIdx?_eq_none_iff.2 fun part listed => decide_eq_false fun same => ?_
    rcases List.mem_append.1 listed with listed | listed
    · exact Nat.lt_irrefl _ (same ▸ lower part listed)
    · exact Nat.lt_irrefl _ (same ▸ higher part listed)
  have split : (before ++ after).takeWhile
      (fun part => decide (part.kind.position < ItemKind.attr.position)) = before := by
    rw [List.takeWhile_append_of_pos fun part listed => decide_eq_true (lower part listed)]
    cases after with
    | nil => exact List.append_nil _
    | cons part after =>
        have stops := Nat.not_lt_of_lt (higher part (.head _))
        rw [List.takeWhile_cons_of_neg (by simpa using stops), List.append_nil]
  rw [addDispatch, missing]
  simp only
  rw [split]
  clear split missing lower
  induction before with
  | nil => rfl
  | cons part before ih => exact congrArg (List.cons part) ih

theorem kind_of_mem_ofCodes {kind : ItemKind} {codes : List String} {part : OpenSection}
    (listed : part ∈ ofCodes kind codes) : part.kind = kind := by
  rw [ofCodes] at listed
  split at listed
  · cases listed
  · rw [List.mem_singleton.1 listed]

theorem addDispatch_flatMap {codesOf : ItemKind → List String} {extra : List String}
    (nonempty : extra ≠ []) :
    addDispatch (ItemKind.all.flatMap fun kind => ofCodes kind (codesOf kind)) (piecesText extra) =
      ItemKind.all.flatMap fun kind =>
        ofCodes kind (codesOf kind ++ if kind = .attr then extra else []) := by
  let lower : List ItemKind := [.enum, .bitmap, .struct, .command]
  let higher : List ItemKind := [.response, .event]
  have split (f : ItemKind → List OpenSection) :
      ItemKind.all.flatMap f = lower.flatMap f ++ (f .attr ++ higher.flatMap f) := by
    simp [ItemKind.all, lower, higher]
  have kinds {some : List ItemKind} {part : OpenSection}
      (listed : part ∈ some.flatMap fun kind => ofCodes kind (codesOf kind)) : part.kind ∈ some := by
    rcases List.mem_flatMap.1 listed with ⟨kind, known, opened⟩
    rwa [kind_of_mem_ofCodes opened]
  have below : ∀ kind ∈ lower, kind.position < ItemKind.attr.position := by decide
  have above : ∀ kind ∈ higher, ItemKind.attr.position < kind.position := by decide
  have own : ofCodes .attr (codesOf .attr ++ extra) =
      [⟨.attr, piecesText (codesOf .attr) ++ piecesText extra⟩] := by
    rw [ofCodes, piecesText_append, if_neg]
    simp [nonempty]
  have others {some : List ItemKind} (absent : .attr ∉ some) :
      (some.flatMap fun kind => ofCodes kind (codesOf kind ++ if kind = .attr then extra else [])) =
        some.flatMap fun kind => ofCodes kind (codesOf kind) := by
    refine List.flatMap_congr fun kind known => ?_
    have other : kind ≠ .attr := by
      rintro rfl
      exact absent known
    rw [if_neg other, List.append_nil]
  rw [split, split, others (by decide), others (by decide), if_pos rfl, own]
  -- Without code of its own the section is not open yet.
  cases codes : codesOf .attr with
  | nil =>
      exact addDispatch_of_missing (fun part listed => below _ (kinds listed))
        (fun part listed => above _ (kinds listed)) _
  | cons code rest =>
      exact addDispatch_of_open (fun part listed => below _ (kinds listed)) _ _

end OpenSection

namespace Resolved

open OpenSection

variable {r : Resolved} {s : Settings}

/-- The outcomes of the items of a kind. -/
def outcomesOf (r : Resolved) (s : Settings) (kind : ItemKind) : List (Item × Outcome r) :=
  (r.outcomes s).filter fun p => decide (p.1.kind = kind)

theorem outcomes_eq_flatMap : r.outcomes s = ItemKind.all.flatMap (r.outcomesOf s) := by
  have kept (kind : ItemKind) : r.outcomesOf s kind =
      (r.outcomes s).filterMap fun p => if p.1.kind = kind then some p else none := by
    rw [outcomesOf, ← List.filterMap_eq_filter]
    exact List.filterMap_congr fun p _ => by simp [Option.guard]
  have all := flatMap_filterMap_outcomes (r := r) (s := s) (f := some)
  rw [List.filterMap_some] at all
  rw [funext kept, all]

theorem codes_outcomesOf (kind : ItemKind) :
    codes (r.outcomesOf s kind) = r.emittedParts (r.outcomes s) kind := by
  rw [codes, outcomesOf, List.filterMap_filter, emittedParts]
  simp only [decide_eq_true_eq]

/-- The items in their order give one section for each kind with code. -/
theorem foldl_addItem_outcomes :
    (r.outcomes s).foldl addItem [] =
      ItemKind.all.flatMap fun kind => ofCodes kind (r.emittedParts (r.outcomes s) kind) := by
  have same : ∀ kind, ∀ p ∈ r.outcomesOf s kind, p.1.kind = kind :=
    fun kind p listed => of_decide_eq_true (List.mem_filter.1 listed).2
  rw [outcomes_eq_flatMap, foldl_addItem_kinds (by decide) same (List.forall_mem_nil _),
    List.nil_append, ← outcomes_eq_flatMap]
  simp only [codes_outcomesOf]

theorem dispatchText_eq :
    r.dispatchText s = piecesText
      [r.dispatcherText s (r.routedAttributes s), attributeListText r.cluster.attributes] := by
  rw [piecesText_cons, piecesText_cons, dispatchText]
  simp [piecesText, String.append_assoc]

theorem extraParts_eq (kind : ItemKind) :
    r.extraParts s (r.outcomes s) kind =
      if kind = .attr ∧ r.cluster.hasAttributes = true then
        [r.dispatcherText s (r.routedAttributes s), attributeListText r.cluster.attributes]
      else [] := by
  cases kind <;> simp [extraParts, routedAttributes]

/-- The section that each kind has in the end, if it has any code. -/
theorem assembled_eq_flatMap :
    r.assembled s = ItemKind.all.flatMap fun kind =>
      ofCodes kind (r.emittedParts (r.outcomes s) kind ++ r.extraParts s (r.outcomes s) kind) := by
  rw [assembled, foldl_addItem_outcomes]
  simp only [extraParts_eq]
  cases r.cluster.hasAttributes with
  | true =>
      rw [if_pos rfl, dispatchText_eq, addDispatch_flatMap (List.cons_ne_nil _ _)]
      simp only [and_true]
  | false =>
      simp only [Bool.false_eq_true, and_false, if_false, List.append_nil]

theorem assembled_eq :
    r.assembled s = (r.sections s).map fun part => ⟨part.kind, piecesText part.parts⟩ := by
  rw [assembled_eq_flatMap, sections, sectionsFrom]
  generalize ItemKind.all = kinds
  induction kinds with
  | nil => rfl
  | cons kind kinds ih =>
      rw [List.flatMap_cons, ih, List.map_cons, ofCodes]
      split
      · next empty => rw [List.filter_cons_of_neg (by simpa using empty), List.nil_append]
      · next some => rw [List.filter_cons_of_pos (by simpa using some)]; rfl

/-! ## Layout -/

variable (r s)

/-- The emitted items with their code, in order. -/
def emittedCode : List (Item × String) :=
  (r.outcomes s).filterMap fun p => p.2.definition?.map fun d => (p.1, d.text)

/-- The emitted items of a kind with their code, in order. -/
def emittedCodeOf (kind : ItemKind) : List (Item × String) :=
  (r.outcomes s).filterMap fun p =>
    if p.1.kind = kind then p.2.definition?.map fun d => (p.1, d.text) else none

/-- The text of the sections. -/
def bodyText (sections : List OpenSection) : String :=
  String.join (sections.map commented)

/-- The source text consists of the header, the imports and the sections, apart from line breaks that
are dropped at its end, and ends with one line break. Later sections have later positions. A kind has
a section iff an item of the kind is emitted, or attributes are to be reached. A section holds the code
of the emitted items of its kind in their order, and then the two functions of attributes where there
are any. Over all sections that is every emitted item once, in the order of the items. -/
structure SourceLayout (file : String) (sections : List OpenSection) : Prop where
  source : ∃ surplus, r.source s file ++ String.ofList (List.replicate surplus '\n') =
    moduleHead r.cluster s file (bodyText sections) ++ bodyText sections
  endsLine : EndsLine (r.source s file)
  rising : (sections.map fun part => part.kind.position).Pairwise (· < ·)
  present : ∀ kind, (∃ part ∈ sections, part.kind = kind) ↔
    (∃ i d, (i, .emitted d) ∈ r.outcomes s ∧ i.kind = kind) ∨
      kind = .attr ∧ r.cluster.hasAttributes = true
  text : ∀ part ∈ sections, part.text =
    piecesText ((r.emittedCodeOf s part.kind).map Prod.snd) ++
      if part.kind = .attr ∧ r.cluster.hasAttributes = true then r.dispatchText s else ""
  complete : (sections.flatMap fun part => r.emittedCodeOf s part.kind) = r.emittedCode s

variable {r s}

theorem emittedParts_eq (kind : ItemKind) :
    r.emittedParts (r.outcomes s) kind = (r.emittedCodeOf s kind).map Prod.snd :=
  emittedParts_eq_map (fun i d => (i, d.text)) Prod.snd (fun _ _ => rfl) kind

theorem mem_emittedCodeOf_iff {kind : ItemKind} {i : Item} {code : String} :
    (i, code) ∈ r.emittedCodeOf s kind ↔
      i.kind = kind ∧ ∃ d, (i, .emitted d) ∈ r.outcomes s ∧ d.text = code := by
  rw [emittedCodeOf, List.mem_filterMap]
  constructor
  · rintro ⟨⟨j, o⟩, listed, found⟩
    rcases Option.ite_none_right_eq_some.1 found with ⟨same, found⟩
    rcases Option.map_eq_some_iff.1 found with ⟨d, defined, pair⟩
    cases definition?_eq_some_iff.1 defined
    cases pair
    exact ⟨same, d, listed, rfl⟩
  · rintro ⟨same, d, listed, rfl⟩
    exact ⟨(i, .emitted d), listed, if_pos same⟩

theorem exists_emitted_iff {kind : ItemKind} :
    (∃ i d, (i, .emitted d) ∈ r.outcomes s ∧ i.kind = kind) ↔
      r.emittedParts (r.outcomes s) kind ≠ [] := by
  rw [emittedParts_eq, ne_eq, List.map_eq_nil_iff]
  constructor
  · rintro ⟨i, d, listed, same⟩
    exact List.ne_nil_of_mem (mem_emittedCodeOf_iff.2 ⟨same, d, listed, rfl⟩)
  · intro nonempty
    rcases List.exists_mem_of_ne_nil _ nonempty with ⟨⟨i, code⟩, listed⟩
    rcases mem_emittedCodeOf_iff.1 listed with ⟨same, d, listed, -⟩
    exact ⟨i, d, listed, same⟩

theorem kinds_assembled :
    (r.assembled s).map OpenSection.kind = ItemKind.all.filter fun kind =>
      !(r.emittedParts (r.outcomes s) kind ++ r.extraParts s (r.outcomes s) kind).isEmpty := by
  rw [assembled_eq, sections, sectionsFrom, List.filter_map, List.map_map, List.map_map]
  exact List.map_id _

theorem rising_assembled :
    ((r.assembled s).map fun part => part.kind.position).Pairwise (· < ·) := by
  have ordered : (ItemKind.all.map ItemKind.position).Pairwise (· < ·) := by decide
  have kinds : ((r.assembled s).map fun part => part.kind.position) =
      ((r.assembled s).map OpenSection.kind).map ItemKind.position := by
    rw [List.map_map]
    rfl
  rw [kinds, kinds_assembled]
  exact ordered.sublist (List.filter_sublist.map _)

theorem exists_mem_assembled_iff {kind : ItemKind} :
    (∃ part ∈ r.assembled s, part.kind = kind) ↔
      (∃ i d, (i, .emitted d) ∈ r.outcomes s ∧ i.kind = kind) ∨
        kind = .attr ∧ r.cluster.hasAttributes = true := by
  have every : kind ∈ ItemKind.all := by cases kind <;> decide
  rw [← List.mem_map, kinds_assembled, List.mem_filter, exists_emitted_iff, extraParts_eq]
  simp [every, imp_iff_not_or]

theorem text_of_mem_assembled {part : OpenSection} (listed : part ∈ r.assembled s) :
    part.text = piecesText ((r.emittedCodeOf s part.kind).map Prod.snd) ++
      if part.kind = .attr ∧ r.cluster.hasAttributes = true then r.dispatchText s else "" := by
  rw [assembled_eq_flatMap] at listed
  rcases List.mem_flatMap.1 listed with ⟨kind, -, opened⟩
  rw [ofCodes] at opened
  split at opened
  · cases opened
  · rw [List.mem_singleton.1 opened, piecesText_append, emittedParts_eq, extraParts_eq,
      dispatchText_eq]
    split <;> rfl

/-- A kind without a section has no emitted items. -/
theorem flatMap_emittedCodeOf :
    ((r.assembled s).flatMap fun part => r.emittedCodeOf s part.kind) = r.emittedCode s := by
  have kinds : ((r.assembled s).flatMap fun part => r.emittedCodeOf s part.kind) =
      ((r.assembled s).map OpenSection.kind).flatMap (r.emittedCodeOf s) :=
    (List.flatMap_map ..).symm
  rw [kinds, kinds_assembled, emittedCode, ← flatMap_filterMap_outcomes]
  generalize ItemKind.all = kinds
  induction kinds with
  | nil => rfl
  | cons kind kinds ih =>
      rw [List.flatMap_cons, ← ih]
      by_cases empty : r.emittedParts (r.outcomes s) kind ++ r.extraParts s (r.outcomes s) kind = []
      · -- What is left out holds no code of items.
        have none := (List.append_eq_nil_iff.1 empty).1
        rw [emittedParts_eq, List.map_eq_nil_iff] at none
        rw [List.filter_cons_of_neg (by simpa using empty)]
        exact (congrArg (· ++ _) none).symm
      · rw [List.filter_cons_of_pos (by simpa using empty)]
        rfl

theorem bodyText_assembled : bodyText (r.assembled s) = r.body s := by
  rw [bodyText, assembled_eq, List.map_map, body]
  rfl

theorem wholeLines_body : WholeLines (r.body s) := by
  refine WholeLines.join fun text listed => ?_
  rcases List.mem_map.1 listed with ⟨part, -, rfl⟩
  rw [ModuleSection.text]
  refine (wholeLines_append_breaks _).append (WholeLines.join fun piece listed => ?_)
  rcases List.mem_map.1 listed with ⟨code, -, rfl⟩
  exact .inr ⟨code, rfl⟩

theorem slash_mem_moduleHead (c : Cluster) (s : Settings) (file body : String) :
    '/' ∈ (moduleHead c s file body).toList := by
  have front : ∃ rest, moduleHead c s file body =
      "//! Matter TLV encoders and decoders for " ++ rest := by
    unfold moduleHead moduleHeader
    simp only [String.append_assoc]
    exact ⟨_, rfl⟩
  rcases front with ⟨rest, front⟩
  rw [front, String.toList_append]
  exact List.mem_append_left _ (by decide)

theorem source_layout (r : Resolved) (s : Settings) (file : String) :
    r.SourceLayout s file (r.assembled s) where
  source := by
    rw [bodyText_assembled, source_eq]
    rcases exists_oneBreakAtEnd_append_breaks
      (moduleHead r.cluster s file (r.body s) ++ r.body s) with ⟨surplus, split⟩
    exact ⟨surplus, split.symm⟩
  endsLine := by
    rw [source_eq]
    refine endsLine_oneBreakAtEnd ?_ (by decide : '/' ≠ '\n')
      ((wholeLines_moduleHead _ _ _ _).append wholeLines_body)
    rw [String.toList_append]
    exact List.mem_append_left _ (slash_mem_moduleHead _ _ _ _)
  rising := rising_assembled
  present _ := exists_mem_assembled_iff
  text _ := text_of_mem_assembled
  complete := flatMap_emittedCodeOf

end Resolved

end ClusterCodec

import ClusterCodec.Proofs.Indentation
import ClusterCodec.Proofs.NameOwnership
import Mathlib.Data.List.Perm.Basic

/-!
# ModulePieces — the pieces of code that make up a module

- `Resolved.Piece`: the code of an emitted item, the dispatcher or the list of the attributes.
- `Resolved.pieces`, `parts_sections`: the pieces of a module, and that its sections hold nothing
  else.
- `EndsLine`, `Piece.endsLine_text`: a piece ends with one line break.
- `exists_oneBreakAtEnd_append_breaks`, `exists_oneBreakAtFront_eq`: what is dropped at the end of a
  text are line breaks, and one of them stays.
- `Piece.declares_text`: the text of a piece declares the functions that the piece defines.
- `exists_source_eq_of_mem_pieces`: a piece stands in the code as it is, although line breaks are
  dropped at the end.
- `DefinedOnce`: one piece defines the function; `pairwise_pieces` and `definedOnce_of_mem` say that
  this holds of the function of each piece.
- `definedOnce_dispatcher`, `definedOnce_attributeList`: a cluster with attributes has one definition
  of each of the two functions.
- `dispatcherText_guarded`: the dispatcher compares its argument with the id of the cluster.
-/

namespace ClusterCodec

open Text

/-! ## Text -/

/-- The text ends with a line break, but not with two. -/
def EndsLine (text : String) : Prop :=
  ∃ front c, c ≠ '\n' ∧ text.toList = front ++ [c, '\n']

theorem EndsLine.append {back : String} (h : EndsLine back) (front : String) :
    EndsLine (front ++ back) := by
  rcases h with ⟨cs, c, notBreak, split⟩
  refine ⟨front.toList ++ cs, c, notBreak, ?_⟩
  rw [String.toList_append, split, List.append_assoc]

theorem endsLine_block (head body : String) : EndsLine (block head body ++ "\n") := by
  refine ⟨(head ++ " \x7b\n" ++ indent 1 body).toList, '\x7d', by decide, ?_⟩
  simp [block]

theorem endsLine_publicFunction (signature body : String) :
    EndsLine (publicFunction signature body) :=
  endsLine_block _ _

theorem oneBreakAtFront_of_ne {c : Char} (notBreak : c ≠ '\n') (cs : List Char) :
    oneBreakAtFront ('\n' :: c :: cs) = '\n' :: c :: cs := by
  rw [oneBreakAtFront.eq_def]
  split
  · next same =>
      cases same
      exact absurd rfl notBreak
  · rfl

/-- Of the line breaks at the front the last one stays, and all that is behind it. -/
theorem exists_oneBreakAtFront_append {c : Char} (notBreak : c ≠ '\n') (front back : List Char) :
    ∃ front', oneBreakAtFront (front ++ '\n' :: c :: back) = front' ++ '\n' :: c :: back := by
  induction front with
  | nil => exact ⟨[], oneBreakAtFront_of_ne notBreak back⟩
  | cons x front ih =>
      rw [oneBreakAtFront.eq_def]
      split
      · next cs same =>
          rcases List.cons.inj same with ⟨-, rest⟩
          rw [← rest]
          exact ih
      · exact ⟨x :: front, rfl⟩

/-- What ends a line is not touched when line breaks are dropped at the end of the whole text. -/
theorem exists_oneBreakAtEnd_append {text : String} (ends : EndsLine text) (front back : String) :
    ∃ back', oneBreakAtEnd (front ++ text ++ back) = front ++ text ++ back' := by
  rcases ends with ⟨cs, c, notBreak, split⟩
  have reversed : (front ++ text ++ back).toList.reverse =
      back.toList.reverse ++ '\n' :: c :: (front.toList ++ cs).reverse := by
    simp [split]
  rcases exists_oneBreakAtFront_append notBreak back.toList.reverse (front.toList ++ cs).reverse with
    ⟨kept, same⟩
  refine ⟨String.ofList kept.reverse, String.toList_inj.1 ?_⟩
  rw [oneBreakAtEnd, reversed, same]
  simp [split]

/-- Only line breaks are dropped. -/
theorem exists_breaks_append_oneBreakAtFront (cs : List Char) :
    ∃ n, cs = List.replicate n '\n' ++ oneBreakAtFront cs := by
  fun_induction oneBreakAtFront cs with
  | case1 cs ih =>
      rcases ih with ⟨n, split⟩
      exact ⟨n + 1, congrArg (List.cons '\n') split⟩
  | case2 cs other => exact ⟨0, rfl⟩

theorem exists_oneBreakAtEnd_append_breaks (text : String) :
    ∃ n, text = oneBreakAtEnd text ++ String.ofList (List.replicate n '\n') := by
  rcases exists_breaks_append_oneBreakAtFront text.toList.reverse with ⟨n, split⟩
  refine ⟨n, String.toList_inj.1 ?_⟩
  have chars := congrArg List.reverse split
  rw [List.reverse_reverse, List.reverse_append, List.reverse_replicate] at chars
  rw [String.toList_append, oneBreakAtEnd, String.toList_ofList, String.toList_ofList]
  exact chars

/-- Of the line breaks in front of other characters one stays. -/
theorem exists_oneBreakAtFront_eq {c : Char} {cs : List Char} (mem : c ∈ cs) (notBreak : c ≠ '\n') :
    ∃ d rest, d ≠ '\n' ∧ oneBreakAtFront ('\n' :: cs) = '\n' :: d :: rest := by
  induction cs with
  | nil => cases mem
  | cons d cs ih =>
      by_cases lineBreak : d = '\n'
      · subst lineBreak
        rw [oneBreakAtFront]
        exact ih (List.mem_of_ne_of_mem notBreak mem)
      · exact ⟨d, cs, lineBreak, oneBreakAtFront_of_ne lineBreak cs⟩

/-- A text is somewhere among the texts that are joined. -/
theorem exists_join_eq_of_mem {texts : List String} {text : String} (h : text ∈ texts) :
    ∃ front back, String.join texts = front ++ text ++ back := by
  rcases List.append_of_mem h with ⟨before, after, rfl⟩
  refine ⟨String.join before, String.join after, ?_⟩
  rw [String.join_append, String.join_cons, String.append_assoc]

theorem break_notMem_idText (id : UInt32) : '\n' ∉ (idText id).toList := by
  intro h
  exact absurd (Numeral.mem_hexId h) (by decide)

/-! ## Definitions -/

theorem EnumType.endsLine_text (t : EnumType) : EndsLine t.text := by
  unfold text
  split
  · exact (endsLine_block _ _).append _
  · exact (endsLine_block _ _).append _

theorem BitmapType.endsLine_text (t : BitmapType) : EndsLine t.text := by
  unfold text moduleText
  split
  · refine ⟨(docLine (t.name ++ " bitmap type") ++ "pub type " ++ t.name ++ " = " ++
      t.base.text).toList, ';', by decide, ?_⟩
    simp
  · refine EndsLine.append ?_ _
    rw [String.append_assoc]
    exact (endsLine_block _ _).append _

theorem RecordType.endsLine_text (t : RecordType) : EndsLine t.text := by
  unfold text
  rw [String.append_assoc]
  exact (endsLine_block _ _).append _

theorem CommandEncoder.endsLine_text (e : CommandEncoder) : EndsLine e.text := by
  rw [text]
  exact (endsLine_publicFunction _ _).append _

theorem AttributeDecoder.endsLine_text {r : Resolved} (d : AttributeDecoder r) :
    EndsLine d.text := by
  rw [text]
  exact (endsLine_publicFunction _ _).append _

theorem Payload.endsLine_text (p : Payload) : EndsLine p.text := by
  rw [text]
  exact (endsLine_publicFunction _ _).append _

theorem Definition.endsLine_text {r : Resolved} (d : Definition r) : EndsLine d.text := by
  cases d with
  | enum t => exact t.endsLine_text
  | bitmap t => exact t.endsLine_text
  | struct t => exact t.endsLine_text
  | command e => exact e.endsLine_text
  | attr d => exact d.endsLine_text
  | payload p => exact p.endsLine_text

/-! ## Pieces -/

namespace Resolved

/-- A piece of code. -/
inductive Piece (r : Resolved) where
  /-- The code of an item that is emitted. -/
  | item (d : Definition r)
  | dispatcher
  | attributeList

namespace Piece

variable {r : Resolved}

def text (s : Settings) : Piece r → String
  | item d => d.text
  | dispatcher => r.dispatcherText s (r.routedAttributes s)
  | attributeList => attributeListText r.cluster.attributes

/-- The functions that the piece defines. -/
def functionNames : Piece r → List String
  | item d => d.functionNames
  | dispatcher => [dispatcherName]
  | attributeList => [attributeListName]

theorem endsLine_text (s : Settings) (p : Piece r) : EndsLine (p.text s) := by
  cases p with
  | item d => exact d.endsLine_text
  | dispatcher => exact (endsLine_publicFunction _ _).append _
  | attributeList => exact (endsLine_publicFunction _ _).append _

/-- The text holds a public function of this name. -/
def Declares (text f : String) : Prop :=
  ∃ front back, text = front ++ ("pub fn " ++ f ++ "(") ++ back

theorem declares_publicFunction {signature f : String} (head : ∃ rest, signature = f ++ "(" ++ rest)
    (front body : String) : Declares (front ++ publicFunction signature body) f := by
  rcases head with ⟨rest, rfl⟩
  refine ⟨front, rest ++ (" \x7b\n" ++ indent 1 body ++ "\x7d" ++ "\n"), ?_⟩
  unfold publicFunction block
  simp only [String.append_assoc]

theorem exists_decoderSignature_eq (f argument result : String) :
    ∃ rest, decoderSignature f argument result = f ++ "(" ++ rest := by
  refine ⟨argument ++ ": &tlv::TlvItemValue) -> anyhow::Result<" ++ result ++ ">", ?_⟩
  unfold decoderSignature
  simp only [String.append_assoc]

/-- A function that a piece defines is declared in its text. -/
theorem declares_text (s : Settings) {p : Piece r} {f : String} (h : f ∈ p.functionNames) :
    Declares (p.text s) f := by
  cases p with
  | dispatcher =>
      cases List.mem_singleton.1 h
      have head : ∃ rest, dispatcherSignature = dispatcherName ++ "(" ++ rest :=
        ⟨"cluster_id: u32, attribute_id: u32, tlv_value: &tlv::TlvItemValue) -> String", by decide⟩
      exact declares_publicFunction head _ _
  | attributeList =>
      cases List.mem_singleton.1 h
      exact declares_publicFunction ⟨") -> Vec<(u32, &'static str)>", by decide⟩ _ _
  | item d =>
      cases d with
      | enum t => cases h
      | bitmap t => cases h
      | struct t => cases h
      | command e =>
          cases List.mem_singleton.1 h
          refine declares_publicFunction ⟨e.signature ++ ") -> anyhow::Result<Vec<u8>>", ?_⟩ _ _
          simp only [String.append_assoc]
      | attr d =>
          cases List.mem_singleton.1 h
          exact declares_publicFunction (exists_decoderSignature_eq _ _ _) _ _
      | payload p =>
          cases List.mem_singleton.1 h
          exact declares_publicFunction (exists_decoderSignature_eq _ _ _) _ _

end Piece

/-- What the emitted items of a kind give has the text of their code, if each has the text of its own
definition. -/
theorem emittedParts_eq_map {s : Settings} {α : Type} (of : Item → Definition r → α)
    (text : α → String) (same : ∀ i d, text (of i d) = d.text) (kind : ItemKind) :
    r.emittedParts (r.outcomes s) kind =
      ((r.outcomes s).filterMap fun p =>
        if p.1.kind = kind then p.2.definition?.map (of p.1) else none).map text := by
  rw [emittedParts, List.map_filterMap]
  refine List.filterMap_congr fun p _ => ?_
  by_cases kept : p.1.kind = kind
  · simp only [kept, if_true, Option.map_map]
    exact congrArg (p.2.definition?.map ·) (funext fun d => (same p.1 d).symm)
  · simp only [kept, if_false, Option.map_none]

variable (r : Resolved) (s : Settings)

def itemPieces (kind : ItemKind) : List (Piece r) :=
  (r.outcomes s).filterMap fun (i, outcome) =>
    if i.kind = kind then outcome.definition?.map .item else none

/-- The pieces beside the items. -/
def extraPieces : ItemKind → List (Piece r)
  | .attr => if r.cluster.hasAttributes then [.dispatcher, .attributeList] else []
  | _ => []

/-- The pieces of a module in order. -/
def pieces : List (Piece r) :=
  ItemKind.all.flatMap fun kind => r.itemPieces s kind ++ r.extraPieces kind

theorem text_itemPieces (kind : ItemKind) :
    (r.itemPieces s kind).map (Piece.text s) = r.emittedParts (r.outcomes s) kind :=
  (emittedParts_eq_map (fun _ => Piece.item) (Piece.text s) (fun _ _ => rfl) kind).symm

theorem text_extraPieces (kind : ItemKind) :
    (r.extraPieces kind).map (Piece.text s) = r.extraParts s (r.outcomes s) kind := by
  cases kind with
  | attr =>
      simp only [extraPieces, extraParts]
      split <;> rfl
  | enum => rfl
  | bitmap => rfl
  | struct => rfl
  | command => rfl
  | response => rfl
  | event => rfl

/-- The sections hold the pieces and nothing else. -/
theorem parts_sections :
    (r.sections s).flatMap ModuleSection.parts = (r.pieces s).map (Piece.text s) := by
  have nonempty : ∀ sections : List ModuleSection,
      (sections.filter fun part => !part.parts.isEmpty).flatMap ModuleSection.parts =
        sections.flatMap ModuleSection.parts := by
    intro sections
    induction sections with
    | nil => rfl
    | cons part sections ih =>
        cases empty : part.parts with
        | nil => simp [empty, ih]
        | cons head tail => simp [empty, ih]
  rw [sections, sectionsFrom, nonempty, List.flatMap_map, pieces, List.map_flatMap]
  refine List.flatMap_congr fun kind _ => ?_
  rw [List.map_append, text_itemPieces, text_extraPieces]

theorem exists_body_eq_of_mem_pieces {p : Piece r} (h : p ∈ r.pieces s) :
    ∃ front back, r.body s = front ++ p.text s ++ back := by
  have listed : p.text s ∈ (r.sections s).flatMap ModuleSection.parts := by
    rw [parts_sections]
    exact List.mem_map_of_mem h
  rcases List.mem_flatMap.1 listed with ⟨part, hpart, mem⟩
  -- The piece stands in its section, and the section in the body.
  rcases exists_join_eq_of_mem (List.mem_map_of_mem (f := (· ++ "\n")) mem) with ⟨a, b, inSection⟩
  rcases exists_join_eq_of_mem (List.mem_map_of_mem (f := ModuleSection.text) hpart) with
    ⟨a', b', inBody⟩
  refine ⟨a' ++ ("// " ++ part.kind.sectionTitle ++ "\n\n") ++ a, "\n" ++ b ++ b', ?_⟩
  rw [body, inBody, ModuleSection.text, inSection]
  simp only [String.append_assoc]

theorem exists_source_eq (file : String) :
    ∃ head, r.source s file = oneBreakAtEnd (head ++ r.body s) := by
  unfold source
  exact ⟨_, rfl⟩

/-- A piece stands in the code of its module as it is. -/
theorem exists_source_eq_of_mem_pieces {p : Piece r} (h : p ∈ r.pieces s) (file : String) :
    ∃ front back, r.source s file = front ++ p.text s ++ back := by
  rcases exists_source_eq r s file with ⟨head, source⟩
  rcases exists_body_eq_of_mem_pieces r s h with ⟨front, back, inBody⟩
  rcases exists_oneBreakAtEnd_append (p.endsLine_text s) (head ++ front) back with ⟨back', same⟩
  refine ⟨head ++ front, back', ?_⟩
  rw [source, inBody, ← same]
  simp only [String.append_assoc]

/-! ## Functions -/

variable {r s}

/-- The piece defines the function and no other one, and no other piece defines it. -/
def DefinedOnce (r : Resolved) (s : Settings) (f : String) (p : Piece r) : Prop :=
  p.functionNames = [f] ∧ ∃ before after, r.pieces s = before ++ p :: after ∧
    ∀ q ∈ before ++ after, f ∉ q.functionNames

theorem notMem_reserved_of_emitted {i : Item} {d : Definition r} {f : String}
    (emitted : (i, .emitted d) ∈ r.outcomes s) (hf : f ∈ d.functionNames) :
    f ∉ r.reservedFunctions := by
  intro reserved
  have free : r.initialClaims.Free d := free_of_mem emitted
  exact free.2 f hf .helper (List.mem_map_of_mem reserved)

theorem mem_reservedFunctions_of_mem {p : Piece r} {f : String} (extra : p ∈ r.extraPieces .attr)
    (defined : f ∈ p.functionNames) : f ∈ r.reservedFunctions := by
  rw [extraPieces] at extra
  split at extra
  · next attributes =>
      rw [reservedFunctions, if_pos attributes]
      refine List.mem_append_right _ ?_
      rcases List.mem_pair.1 extra with rfl | rfl
      · exact List.mem_cons.2 (.inl (List.mem_singleton.1 defined))
      · exact List.mem_cons_of_mem _ defined
  · cases extra

/-- The pieces of the items stand in the order of the items. -/
theorem flatMap_itemPieces :
    ItemKind.all.flatMap (r.itemPieces s) =
      (r.outcomes s).filterMap fun p => p.2.definition?.map Piece.item :=
  flatMap_filterMap_outcomes

theorem mem_flatMap_itemPieces_iff {p : Piece r} :
    p ∈ ItemKind.all.flatMap (r.itemPieces s) ↔
      ∃ i d, (i, .emitted d) ∈ r.outcomes s ∧ p = .item d := by
  rw [flatMap_itemPieces, List.mem_filterMap]
  constructor
  · rintro ⟨⟨i, o⟩, listed, piece⟩
    rcases Option.map_eq_some_iff.1 piece with ⟨d, found, rfl⟩
    cases definition?_eq_some_iff.1 found
    exact ⟨i, d, listed, rfl⟩
  · rintro ⟨i, d, listed, rfl⟩
    exact ⟨(i, .emitted d), listed, rfl⟩

/-- The pieces are those of the items and the two functions, up to their order. -/
theorem perm_pieces :
    (ItemKind.all.flatMap (r.itemPieces s) ++ r.extraPieces .attr).Perm (r.pieces s) := by
  have extra : ItemKind.all.flatMap r.extraPieces = r.extraPieces .attr := by
    simp [ItemKind.all, extraPieces]
  rw [← extra]
  exact List.flatMap_append_perm ItemKind.all (r.itemPieces s) r.extraPieces

/-- No function is defined by two pieces. -/
theorem pairwise_pieces :
    (r.pieces s).Pairwise fun p q => p.functionNames.Disjoint q.functionNames := by
  rw [← perm_pieces.pairwise_iff List.Disjoint.symm, List.pairwise_append]
  refine ⟨?_, ?_, ?_⟩
  · rw [flatMap_itemPieces, List.pairwise_filterMap]
    refine pairwise_apart.imp fun apart p hp q hq => ?_
    rcases Option.map_eq_some_iff.1 hp with ⟨d, hd, rfl⟩
    rcases Option.map_eq_some_iff.1 hq with ⟨e, he, rfl⟩
    exact (apart d e (definition?_eq_some_iff.1 hd) (definition?_eq_some_iff.1 he)).2
  · have names : List.Disjoint [dispatcherName] [attributeListName] :=
      List.disjoint_singleton.2 (by decide)
    rw [extraPieces]
    split
    · exact List.pairwise_pair.2 names
    · exact .nil
  · intro p item q extra f defined again
    rcases mem_flatMap_itemPieces_iff.1 item with ⟨i, d, emitted, rfl⟩
    exact notMem_reserved_of_emitted emitted defined (mem_reservedFunctions_of_mem extra again)

/-- A piece of the module is the only one that defines its function. -/
theorem definedOnce_of_mem {p : Piece r} {f : String} (listed : p ∈ r.pieces s)
    (name : p.functionNames = [f]) : r.DefinedOnce s f p := by
  rcases List.append_of_mem listed with ⟨before, after, split⟩
  have apart := split ▸ pairwise_pieces (r := r) (s := s)
  rcases List.pairwise_append.1 apart with ⟨-, behind, across⟩
  have own : f ∈ p.functionNames := name ▸ List.mem_singleton_self f
  refine ⟨name, before, after, split, fun q other defined => ?_⟩
  rcases List.mem_append.1 other with other | other
  · exact across q other p (.head _) defined own
  · exact (List.pairwise_cons.1 behind).1 q other own defined

theorem extraPieces_of_hasAttributes (attributes : r.cluster.hasAttributes = true) :
    r.extraPieces .attr = [.dispatcher, .attributeList] :=
  if_pos attributes

theorem definedOnce_dispatcher (attributes : r.cluster.hasAttributes = true) :
    r.DefinedOnce s dispatcherName .dispatcher := by
  refine definedOnce_of_mem (perm_pieces.subset (List.mem_append_right _ ?_)) rfl
  rw [extraPieces_of_hasAttributes attributes]
  exact .head _

theorem definedOnce_attributeList (attributes : r.cluster.hasAttributes = true) :
    r.DefinedOnce s attributeListName .attributeList := by
  refine definedOnce_of_mem (perm_pieces.subset (List.mem_append_right _ ?_)) rfl
  rw [extraPieces_of_hasAttributes attributes]
  exact .tail _ (.head _)

/-! ## The guard of the dispatcher -/

/-- The documentation of the dispatcher. -/
def dispatcherDoc (id : String) : String :=
  docLine "Decode attribute value and return as JSON string" ++ "///\n" ++
    docLine "# Parameters" ++
    docLine ("* `cluster_id` - The cluster identifier; must be " ++ id) ++
    docLine "* `attribute_id` - The attribute identifier" ++
    docLine "* `tlv_value` - The TLV value to decode" ++ "///\n" ++
    docLine "# Returns" ++ docLine "JSON string representation of the decoded value or error"

theorem solid_guard (id : UInt32) : Solid ("if cluster_id != " ++ idText id ++ " \x7b") := by
  constructor
  · simpa using break_notMem_idText id
  · exact ⟨'i', by simp, by decide⟩

/-- A function whose body starts with a block. -/
theorem publicFunction_block {head : String} (solid : Solid (head ++ " \x7b"))
    (signature body tail : String) :
    publicFunction signature (block head body ++ tail) =
      "pub fn " ++ signature ++ " \x7b\n" ++ ("    " ++ head ++ " \x7b\n") ++
        (indent 1 (indent 1 body ++ "\x7d" ++ tail) ++ "\x7d\n") := by
  have firstLine : block head body ++ tail =
      head ++ " \x7b" ++ "\n" ++ (indent 1 body ++ "\x7d" ++ tail) :=
    String.toList_inj.1 (by simp [block])
  rw [firstLine, publicFunction, block, indent_append_line solid]
  exact String.toList_inj.1 (by simp [margin])

/-- The dispatcher first compares its argument with the id of the cluster. -/
theorem dispatcherText_guarded (attrs : List Attribute) :
    ∃ rest, r.dispatcherText s attrs =
      dispatcherDoc (idText r.cluster.id) ++ ("pub fn " ++ dispatcherSignature ++ " \x7b\n" ++
        ("    if cluster_id != " ++ idText r.cluster.id ++ " \x7b\n") ++ rest) := by
  have body : ∃ otherwise tail, r.dispatcherText s attrs = dispatcherDoc (idText r.cluster.id) ++
      publicFunction dispatcherSignature
        (block ("if cluster_id != " ++ idText r.cluster.id) otherwise ++ tail) := by
    unfold dispatcherText
    dsimp only
    rw [@String.append_assoc (block _ _) "\n\n", @String.append_assoc (block _ _) _ "\n"]
    exact ⟨_, _, rfl⟩
  rcases body with ⟨otherwise, tail, body⟩
  refine ⟨indent 1 (indent 1 otherwise ++ "\x7d" ++ tail) ++ "\x7d\n", ?_⟩
  rw [body, publicFunction_block (solid_guard _)]
  exact String.toList_inj.1 (by simp)

end Resolved
end ClusterCodec

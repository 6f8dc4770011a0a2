import ClusterCodec.Proofs.Documentation
import Mathlib.Data.List.Forall2

/-!
# DocumentationErasure — a module does not depend on its documentation

- `SameOutcome`, `outcomesFrom_undocumented`: without documentation the items have the same
  outcomes, since names are given out in the same way.
- `SameSection`, `sectionsFrom_undocumented`: the sections hold pieces with the same code.
- `sameBody_undocumented`, `moduleImports_eq`: so do the bodies, and they need the same imports.
- `Cluster.codeLines_source_of_undocumented_eq`: clusters that differ in plain documentation have
  modules with the same code.
- `Cluster.codeLines_source_ne_dimmer`: a line break in an id ends the documentation.
-/

namespace ClusterCodec

open Text

namespace Resolved

variable {r : Resolved} {s : Settings}

/-! ## Outcomes -/

/-- The same record, or definitions with the same code. -/
structure SameOutcome {r r' : Resolved} (o : Outcome r) (o' : Outcome r') : Prop where
  record : o.record? = o'.record?
  definition : Option.Rel SameDefinition o.definition? o'.definition?

theorem conflict?_eq {r r' : Resolved} {d : Definition r} {d' : Definition r'}
    (same : SameDefinition d d') (claims : Claims) : claims.conflict? d = claims.conflict? d' := by
  rw [Claims.conflict?, Claims.conflict?, same.typeNames, same.functionNames]

theorem owner_undocumented (i : Item) : i.undocumented.owner = i.owner := by
  cases i <;> rfl

theorem outcome_undocumented {i : Item} (plain : i.PlainDocs) (claims : Claims) :
    SameOutcome (outcome s claims i : Outcome r)
        (outcome s claims i.undocumented : Outcome r.undocumented) ∧
      claimsAfter claims i (outcome s claims i : Outcome r) =
        claimsAfter claims i.undocumented
          (outcome s claims i.undocumented : Outcome r.undocumented) := by
  have same := definition?_undocumented (r := r) (s := s) plain
  have owner := owner_undocumented i
  -- The same names are asked for, so the same ones are free and are taken.
  generalize found : r.definition? s i = d? at same
  generalize found' : r.undocumented.definition? s i.undocumented = d?' at same
  cases same with
  | none =>
      simp only [outcome, found, found']
      exact ⟨⟨rfl, .none⟩, rfl⟩
  | @some d d' same =>
      simp only [outcome, found, found', conflict?_eq same]
      cases claims.conflict? d' with
      | none =>
          refine ⟨⟨rfl, .some same⟩, ?_⟩
          simp only [claimsAfter, Claims.take, same.typeNames, same.functionNames, owner]
      | some taken =>
          refine ⟨⟨?_, .none⟩, rfl⟩
          cases i <;> rfl

/-- The outcomes of an item and of what is left of it. -/
def SameEntry {r : Resolved} (p : Item × Outcome r) (q : Item × Outcome r.undocumented) : Prop :=
  q.1 = p.1.undocumented ∧ SameOutcome p.2 q.2

theorem outcomesFrom_undocumented {items : List Item} (plain : ∀ i ∈ items, i.PlainDocs)
    (claims : Claims) :
    List.Forall₂ SameEntry (outcomesFrom s claims items : List (Item × Outcome r))
      (outcomesFrom s claims (items.map Item.undocumented)) := by
  induction items generalizing claims with
  | nil => exact .nil
  | cons i items ih =>
      rcases outcome_undocumented (plain i List.mem_cons_self) claims with ⟨same, after⟩
      rw [List.map_cons, outcomesFrom, outcomesFrom, ← after]
      exact .cons ⟨rfl, same⟩ (ih (fun j inside => plain j (List.mem_cons_of_mem i inside)) _)

/-! ## Sections -/

variable {l : List (Item × Outcome r)} {l' : List (Item × Outcome r.undocumented)}

theorem routedFrom_undocumented (same : List.Forall₂ SameEntry l l') (defined : List String) :
    r.undocumented.routedFrom defined l' = r.routedFrom defined l := by
  induction same generalizing defined with
  | nil => rfl
  | @cons p q l l' entry same ih =>
      rcases p with ⟨i, o⟩
      rcases q with ⟨j, o'⟩
      rcases entry with ⟨rfl, outcome⟩
      have emitted : o'.definition?.isSome = o.definition?.isSome := by
        have definitions := outcome.definition
        generalize o.definition? = d? at definitions
        generalize o'.definition? = d?' at definitions
        cases definitions <;> rfl
      cases i with
      | attr a => simp only [Item.undocumented, routedFrom, emitted, ih]
      | _ => exact ih defined

theorem emittedParts_undocumented (same : List.Forall₂ SameEntry l l') (kind : ItemKind) :
    List.Forall₂ SamePiece (r.emittedParts l kind) (r.undocumented.emittedParts l' kind) := by
  induction same with
  | nil => exact .nil
  | @cons p q l l' entry same ih =>
      rcases p with ⟨i, o⟩
      rcases q with ⟨j, o'⟩
      rcases entry with ⟨rfl, outcome⟩
      have sameKind : i.undocumented.kind = i.kind := by cases i <;> rfl
      rcases outcome with ⟨-, definitions⟩
      simp only [emittedParts, List.filterMap_cons, sameKind]
      split_ifs with ofKind
      · generalize o.definition? = d? at definitions
        generalize o'.definition? = d?' at definitions
        cases definitions with
        | none => exact ih
        | some same => exact .cons same.piece ih
      · exact ih

theorem extraParts_undocumented (same : List.Forall₂ SameEntry l l') (kind : ItemKind) :
    r.undocumented.extraParts s l' kind = r.extraParts s l kind := by
  cases kind with
  | attr =>
      simp only [extraParts, routedFrom_undocumented same,
        dispatcherText_transfer r.sameTables_undocumented rfl]
      rfl
  | _ => rfl

/-- A section of the same kind whose pieces have the same code. -/
def SameSection (a b : ModuleSection) : Prop :=
  a.kind = b.kind ∧ List.Forall₂ SamePiece a.parts b.parts

theorem endsLine_extraParts {part : String} {kind : ItemKind}
    (inside : part ∈ r.extraParts s l kind) : EndsLine part := by
  cases kind with
  | attr =>
      rw [extraParts] at inside
      split at inside
      · rcases List.mem_cons.1 inside with rfl | inside
        · exact (endsLine_publicFunction _ _).append _
        · cases List.mem_singleton.1 inside
          exact (endsLine_publicFunction _ _).append _
      · cases inside
  | _ => cases inside

theorem sectionsFrom_undocumented (same : List.Forall₂ SameEntry l l') :
    List.Forall₂ SameSection (r.sectionsFrom s l) (r.undocumented.sectionsFrom s l') := by
  rw [sectionsFrom, sectionsFrom]
  induction ItemKind.all with
  | nil => exact .nil
  | cons kind kinds ih =>
      have parts : List.Forall₂ SamePiece (r.emittedParts l kind ++ r.extraParts s l kind)
          (r.undocumented.emittedParts l' kind ++ r.undocumented.extraParts s l' kind) := by
        rw [extraParts_undocumented same]
        refine List.rel_append (emittedParts_undocumented same kind) (List.forall₂_same.2 ?_)
        intro part inside
        exact .refl (endsLine_extraParts inside)
      -- There are as many pieces as before, so the same sections are left out.
      have empty : (r.emittedParts l kind ++ r.extraParts s l kind).isEmpty =
          (r.undocumented.emittedParts l' kind ++ r.undocumented.extraParts s l' kind).isEmpty := by
        rw [← Bool.coe_iff_coe, List.isEmpty_iff_length_eq_zero, List.isEmpty_iff_length_eq_zero,
          parts.length_eq]
      simp only [List.map_cons, List.filter_cons, empty]
      split
      · exact .cons ⟨rfl, parts⟩ ih
      · exact ih

/-! ## The body -/

theorem sameBody_join {parts parts' : List String} (same : List.Forall₂ SamePiece parts parts') :
    SameBody (String.join (parts.map (· ++ "\n"))) (String.join (parts'.map (· ++ "\n"))) := by
  induction same with
  | nil => exact .inl ⟨rfl, rfl⟩
  | @cons a b parts parts' piece same ih =>
    rw [List.map_cons, List.map_cons, String.join_cons, String.join_cons]
    exact SameBody.append (.inr ⟨a, b, rfl, rfl, piece⟩) ih

theorem endsLine_title (kind : ItemKind) : EndsLine ("// " ++ kind.sectionTitle ++ "\n") :=
  ⟨("// " ++ kind.sectionTitle).toList.dropLast, 's', by decide, by cases kind <;> rfl⟩

theorem SameSection.text {a b : ModuleSection} (same : SameSection a b) :
    SameBody a.text b.text := by
  rcases a with ⟨kind, parts⟩
  rcases b with ⟨kind', parts'⟩
  rcases same with ⟨rfl, same⟩
  have title : SameBody ("// " ++ kind.sectionTitle ++ "\n" ++ "\n")
      ("// " ++ kind.sectionTitle ++ "\n" ++ "\n") :=
    .inr ⟨_, _, rfl, rfl, .refl (endsLine_title kind)⟩
  rw [String.append_assoc] at title
  exact title.append (sameBody_join same)

theorem sameBody_undocumented (plain : ∀ i ∈ r.cluster.items, i.PlainDocs) :
    SameBody (r.body s) (r.undocumented.body s) := by
  have outcomes : List.Forall₂ SameEntry (r.outcomes s) (r.undocumented.outcomes s) := by
    rw [Resolved.outcomes, Resolved.outcomes, items_undocumented]
    exact outcomesFrom_undocumented plain _
  have sections := sectionsFrom_undocumented (s := s) outcomes
  rw [body, body, Resolved.sections, Resolved.sections]
  generalize r.sectionsFrom s (r.outcomes s) = l at sections
  generalize r.undocumented.sectionsFrom s (r.undocumented.outcomes s) = l' at sections
  induction sections with
  | nil => exact .inl ⟨rfl, rfl⟩
  | cons same rest ih =>
      rw [List.map_cons, List.map_cons, String.join_cons, String.join_cons]
      exact same.text.append ih

/-! ## The module -/

/-- The lines above the sections. -/
def moduleHead (c : Cluster) (s : Settings) (file body : String) : String :=
  moduleHeader c file ++
    (if (moduleImports s body).isEmpty then "" else moduleImports s body ++ "\n")

theorem source_eq (r : Resolved) (s : Settings) (file : String) :
    r.source s file = oneBreakAtEnd (moduleHead r.cluster s file (r.body s) ++ r.body s) := rfl

theorem wholeLines_append_line (a b : String) : WholeLines (a ++ (b ++ "\n")) :=
  .inr ⟨a ++ b, String.append_assoc.symm⟩

theorem wholeLines_append_breaks (text : String) : WholeLines (text ++ "\n\n") :=
  wholeLines_append_line text "\n"

theorem wholeLines_moduleHeader (c : Cluster) (file : String) :
    WholeLines (moduleHeader c file) := by
  unfold moduleHeader
  split
  · exact wholeLines_append_line _ "//! This file is automatically generated.\n"
  · rw [← String.append_assoc]
    exact wholeLines_append_breaks _

theorem wholeLines_moduleHead (c : Cluster) (s : Settings) (file body : String) :
    WholeLines (moduleHead c s file body) := by
  refine (wholeLines_moduleHeader c file).append ?_
  split
  · exact .inl rfl
  · exact .inr ⟨_, rfl⟩

/-- The imports depend on the quoted names and on the paths in the code. -/
theorem moduleImports_eq {a b : String}
    (quoted : ∀ helper,
      occursIn (quotedName helper) a.toList = occursIn (quotedName helper) b.toList)
    (wire : occursIn wireMark a.toList = occursIn wireMark b.toList) (s : Settings) :
    moduleImports s a = moduleImports s b := by
  have helpers : usedHelpers a = usedHelpers b := by
    rw [usedHelpers, usedHelpers]
    exact List.filter_congr fun helper _ => quoted helper
  rw [wireMark] at wire
  rw [moduleImports, moduleImports, helperImport, helperImport, helpers, wire]

theorem codeLines_source {x : String} (ends : EndsLine x) (body : r.body s = x ++ "\n")
    (file : String) :
    codeLines (r.source s file) =
      codeLines (moduleHead r.cluster s file (x ++ "\n")) ++ codeLines x := by
  rw [source_eq, body, ← String.append_assoc, oneBreakAtEnd_append (ends.append _)]
  exact codeLines_append (wholeLines_moduleHead _ _ _ _) x

theorem codeLines_source_eq {r r' : Resolved} (sameBody : SameBody (r.body s) (r'.body s))
    (header : ∀ file, moduleHeader r.cluster file = moduleHeader r'.cluster file) (file : String) :
    codeLines (r.source s file) = codeLines (r'.source s file) := by
  rcases sameBody with ⟨none, none'⟩ | ⟨x, y, hx, hy, piece⟩
  · rw [source_eq, source_eq, none, none', moduleHead, moduleHead, header]
  · have spaced : SameCode (x ++ "\n") (y ++ "\n") :=
      piece.toSameCode.append (.refl wholeLines_break)
    have wire : occursIn wireMark (x ++ "\n").toList = occursIn wireMark (y ++ "\n").toList := by
      rw [occursIn_wireMark_append piece.whole.1, occursIn_wireMark_append piece.whole.2, piece.wire]
    have head : moduleHead r.cluster s file (x ++ "\n") =
        moduleHead r'.cluster s file (y ++ "\n") := by
      rw [moduleHead, moduleHead, header, moduleImports_eq spaced.quoted wire]
    rw [codeLines_source piece.ends.1 hx, codeLines_source piece.ends.2 hy, head, piece.code]

theorem codeLines_source_undocumented (plain : ∀ i ∈ r.cluster.items, i.PlainDocs)
    (file : String) :
    codeLines (r.source s file) = codeLines (r.undocumented.source s file) := by
  refine codeLines_source_eq (sameBody_undocumented plain) ?_ file
  intro file
  rfl

end Resolved

theorem Cluster.plainDocs_resolve {c : Cluster} (plain : ∀ i ∈ c.items, i.PlainDocs) :
    ∀ i ∈ c.resolve.cluster.items, i.PlainDocs := by
  -- Only types are settled.
  have commands : c.resolve.cluster.commands = c.commands := rfl
  have responses : c.resolve.cluster.responses = c.responses := rfl
  have events : c.resolve.cluster.events = c.events := rfl
  intro i inside
  cases i with
  | enum e => trivial
  | bitmap b => trivial
  | struct d => trivial
  | attr a => trivial
  | command d => exact plain _ (by simpa [Cluster.items, commands] using inside)
  | response p => exact plain _ (by simpa [Cluster.items, responses] using inside)
  | event e => exact plain _ (by simpa [Cluster.items, events] using inside)

/-- Documentation cannot reach code. -/
theorem Cluster.codeLines_source_of_undocumented_eq {c c' : Cluster}
    (same : c.undocumented = c'.undocumented) (plain : ∀ i ∈ c.items, i.PlainDocs)
    (plain' : ∀ i ∈ c'.items, i.PlainDocs) (s : Settings) (file : String) :
    codeLines (c.resolve.source s file) = codeLines (c'.resolve.source s file) := by
  calc codeLines (c.resolve.source s file)
      = codeLines (c.undocumented.resolve.source s file) :=
        Resolved.codeLines_source_undocumented (plainDocs_resolve plain) file
    _ = codeLines (c'.undocumented.resolve.source s file) := by rw [same]
    _ = codeLines (c'.resolve.source s file) :=
        (Resolved.codeLines_source_undocumented (plainDocs_resolve plain') file).symm

/-! ## A command that is documented with its id -/

def setLevel (id : String) : Command :=
  { id, name := "SetLevel", fields := [{ id := 0, name := "Level", typeName := "uint8" }] }

/-- A cluster with one command. -/
def dimmer (id : String) : Cluster :=
  { Cluster.ofHeader "0x0008" "Dimmer" with commands := [setLevel id] }

theorem plainDocs_dimmer {id : String} (harmless : Harmless id) :
    ∀ i ∈ (dimmer id).items, i.PlainDocs := by
  intro i inside
  cases List.mem_singleton.1 inside
  intro _
  have unbroken : '\n' ∉ "SetLevel".toList := by decide
  exact ⟨unbroken, harmless⟩

theorem Cluster.codeLines_source_dimmer :
    ((dimmer "0x00").undocumented = (dimmer "0x01").undocumented ∧
      (∀ i ∈ (dimmer "0x00").items, i.PlainDocs) ∧ ∀ i ∈ (dimmer "0x01").items, i.PlainDocs) ∧
    codeLines ((dimmer "0x00").resolve.source {} "Dimmer.xml") =
      codeLines ((dimmer "0x01").resolve.source {} "Dimmer.xml") := by
  have same : (dimmer "0x00").undocumented = (dimmer "0x01").undocumented := rfl
  have zero : Harmless "0x00" := ⟨by decide, fun helper => by cases helper <;> decide⟩
  have one : Harmless "0x01" := ⟨by decide, fun helper => by cases helper <;> decide⟩
  have plain := plainDocs_dimmer zero
  have plain' := plainDocs_dimmer one
  exact ⟨⟨same, plain, plain'⟩,
    codeLines_source_of_undocumented_eq same plain plain' {} "Dimmer.xml"⟩

namespace Resolved

def setLevelEncoder (id : String) : CommandEncoder :=
  { name := "SetLevel", id, function := (setLevel id).encoder, paramsType := none
    params := ((dimmer id).resolve.members none (setLevel id).fields).map
      ((dimmer id).resolve.commandParam "") }

/-- The code of the command apart from its documentation. -/
def setLevelFunction : String :=
  let e := setLevelEncoder ""
  publicFunction (e.function ++ "(" ++ e.signature ++ ") -> anyhow::Result<Vec<u8>>") e.body

/-- The documentation of the command. -/
def setLevelDoc (id : String) : String :=
  "Encode " ++ (setLevel id).name ++ " command (" ++ id ++ ")"

/-- The lines above the documentation. -/
def commandTitle : String :=
  "// " ++ ItemKind.command.sectionTitle ++ "\n" ++ "\n"

variable (id : String)

theorem outcomes_dimmer : (dimmer id).resolve.outcomes {} =
    [(.command (setLevel id), .emitted (.command (setLevelEncoder id)))] := by
  have encoder : (dimmer id).resolve.commandEncoder? {} (setLevel id) = some (setLevelEncoder id) :=
    rfl
  have free : Claims.firstTaken? (dimmer "").resolve.initialClaims.functions
      [(setLevel "").encoder] = none := by
    decide +kernel
  have noConflict : (dimmer id).resolve.initialClaims.conflict?
      (.command (setLevelEncoder id) : Definition (dimmer id).resolve) = none := free
  have emitted : outcome {} (dimmer id).resolve.initialClaims (.command (setLevel id)) =
      (.emitted (.command (setLevelEncoder id)) : Outcome (dimmer id).resolve) := by
    simp only [outcome, definition?, encoder, Option.map_some, noConflict]
  have items : (dimmer id).resolve.cluster.items = [.command (setLevel id)] := rfl
  rw [outcomes, items, outcomesFrom, emitted]
  rfl

theorem body_dimmer : (dimmer id).resolve.body {} =
    commandTitle ++ docLine (setLevelDoc id) ++ setLevelFunction ++ "\n" := by
  have sections : (dimmer id).resolve.sections {} = [⟨.command, [(setLevelEncoder id).text]⟩] := by
    rw [sections, outcomes_dimmer]
    rfl
  have noType : (setLevelEncoder id).paramsTypeText = "" := rfl
  have text : (setLevelEncoder id).text = docLine (setLevelDoc id) ++ setLevelFunction := by
    rw [CommandEncoder.text, noType, String.empty_append]
    rfl
  have title : "// " ++ ItemKind.command.sectionTitle ++ "\n\n" = commandTitle := by
    rw [commandTitle, String.append_assoc]
    rfl
  rw [body, sections, List.map_singleton, ModuleSection.text, title, List.map_singleton, text]
  simp only [String.join_cons, String.join_nil, String.append_empty, String.append_assoc]

theorem wholeLines_commandTitle : WholeLines commandTitle :=
  (wholeLines_of_endsLine (endsLine_title .command)).append wholeLines_break

theorem codeLines_dimmer (file : String) : codeLines ((dimmer id).resolve.source {} file) =
    codeLines (moduleHead (dimmer id).resolve.cluster {} file ((dimmer id).resolve.body {})) ++
      (codeLines commandTitle ++ codeLines (docLine (setLevelDoc id)) ++
        codeLines setLevelFunction) := by
  have ends : EndsLine setLevelFunction := endsLine_publicFunction _ _
  have front := wholeLines_commandTitle.append (wholeLines_docLine (setLevelDoc id))
  rw [body_dimmer, codeLines_source (ends.append _) (body_dimmer id), codeLines_append front,
    codeLines_append wholeLines_commandTitle]

/-- Modules of the cluster name the same things if the documentation of the command does. -/
theorem occursIn_body_dimmer {target : List Char} (absent : '\n' ∉ target)
    (nonempty : target ≠ []) {id id' : String}
    (docs : occursIn target (docLine (setLevelDoc id)).toList =
      occursIn target (docLine (setLevelDoc id')).toList) :
    occursIn target ((dimmer id).resolve.body {}).toList =
      occursIn target ((dimmer id').resolve.body {}).toList := by
  have inBody (id : String) : occursIn target ((dimmer id).resolve.body {}).toList =
      (occursIn target commandTitle.toList || occursIn target (docLine (setLevelDoc id)).toList ||
        occursIn target (setLevelFunction ++ "\n").toList) := by
    have front := wholeLines_commandTitle.append (wholeLines_docLine (setLevelDoc id))
    rw [body_dimmer, String.append_assoc, occursIn_append_of_wholeLines absent nonempty front,
      occursIn_append_of_wholeLines absent nonempty wholeLines_commandTitle]
  rw [inBody, inBody, docs]

end Resolved

/-- The id of a command with a line break in it. -/
def brokenId : String := "0x00\npub fn injected() \x7b\x7d // "

/-- What stands behind a line break in an id is code. -/
theorem Cluster.codeLines_source_ne_dimmer :
    (dimmer "0x00").undocumented = (dimmer brokenId).undocumented ∧
      codeLines ((dimmer "0x00").resolve.source {} "Dimmer.xml") ≠
        codeLines ((dimmer brokenId).resolve.source {} "Dimmer.xml") := by
  have docs : codeLines (docLine (Resolved.setLevelDoc "0x00")) ≠
      codeLines (docLine (Resolved.setLevelDoc brokenId)) := by
    decide +kernel
  have quoted (helper : HexHelper) :
      occursIn (quotedName helper) ((dimmer "0x00").resolve.body {}).toList =
        occursIn (quotedName helper) ((dimmer brokenId).resolve.body {}).toList := by
    refine Resolved.occursIn_body_dimmer (SameCode.break_notMem_quotedName helper)
      (SameCode.quotedName_ne_nil helper) ?_
    cases helper <;> decide +kernel
  have wire : occursIn wireMark ((dimmer "0x00").resolve.body {}).toList =
      occursIn wireMark ((dimmer brokenId).resolve.body {}).toList :=
    Resolved.occursIn_body_dimmer (by decide) (by decide) (by decide +kernel)
  have head : Resolved.moduleHead (dimmer "0x00").resolve.cluster {} "Dimmer.xml"
      ((dimmer "0x00").resolve.body {}) = Resolved.moduleHead (dimmer brokenId).resolve.cluster {}
        "Dimmer.xml" ((dimmer brokenId).resolve.body {}) := by
    rw [Resolved.moduleHead, Resolved.moduleHead, Resolved.moduleImports_eq quoted wire]
    rfl
  refine ⟨rfl, fun same => ?_⟩
  rw [Resolved.codeLines_dimmer, Resolved.codeLines_dimmer, head] at same
  exact docs (List.append_cancel_left (List.append_cancel_right (List.append_cancel_left same)))

end ClusterCodec

import ClusterCodec.Batch.Report
import Mathlib.Data.List.Basic

/-!
# BatchRun — which documents of a batch get a module

- `Document.generate`: the module of a document, whatever names are taken.
- `moduleOf`, `eq_moduleOf_of_generate`: it is the module of the cluster in the document.
- `Document.offers`: whether the document has a module of this name.
- `takenAfter`, `lookup_takenAfter`: a name belongs to the dispatchers, or else to the first document
  that offers it.
- `mem_generateAll_iff`: the result of a document depends on the documents before it only through the
  names they have taken.
- `BatchReport.perm_files`, `nodup_moduleNames`: every file is reported once, and every module name
  belongs to one module.
-/

namespace ClusterCodec

/-! ## One document -/

/-- The module of a document on its own. -/
def Document.generate (s : Settings) (d : Document) : Except GenerateError GeneratedModule := do
  let text ← d.text.mapError .file
  GeneratedModule.ofDocument s d.name text

/-- Whether the document has a module of this name. -/
def Document.offers (s : Settings) (n : String) (d : Document) : Bool :=
  match d.generate s with
  | .ok g => g.entry.moduleName == n
  | .error _ => false

theorem Document.offers_iff {s : Settings} {n : String} {d : Document} :
    d.offers s n = true ↔ ∃ g, d.generate s = .ok g ∧ g.entry.moduleName = n := by
  unfold offers
  cases d.generate s <;> simp

theorem exists_of_bind_eq_ok {ε α β : Type} {x : Except ε α} {f : α → Except ε β} {b : β}
    (h : (x >>= f) = .ok b) : ∃ a, x = .ok a ∧ f a = .ok b := by
  cases x with
  | error e => cases h
  | ok a => exact ⟨a, rfl, h⟩

section Unclaimed

variable {s : Settings} {taken : List (String × String)} {d : Document} {g : GeneratedModule}
  {e : GenerateError}

/-- What is left to do with a module: its name must be free. -/
def claimName (taken : List (String × String)) (d : Document) (g : GeneratedModule) :
    Except GenerateError GeneratedModule :=
  match taken.lookup g.entry.moduleName with
  | some first => .error (.collision g.entry.moduleName first d.name)
  | none => .ok g

theorem generateUnclaimed_eq_bind :
    generateUnclaimed s taken d = (d.generate s).bind (claimName taken d) := by
  unfold generateUnclaimed Document.generate
  cases d.text <;> rfl

theorem generateUnclaimed_eq_ok_iff :
    generateUnclaimed s taken d = .ok g ↔
      d.generate s = .ok g ∧ taken.lookup g.entry.moduleName = none := by
  rw [generateUnclaimed_eq_bind]
  cases d.generate s with
  | error e => simp [Except.bind]
  | ok g' =>
      simp only [Except.bind, claimName, Except.ok.injEq]
      cases free : taken.lookup g'.entry.moduleName with
      | none =>
          simp only [Except.ok.injEq]
          exact ⟨fun same => ⟨same, same ▸ free⟩, fun h => h.1⟩
      | some first =>
          simp only [reduceCtorEq, false_iff, not_and]
          rintro rfl
          simp [free]

theorem generateUnclaimed_eq_error_iff :
    generateUnclaimed s taken d = .error e ↔
      d.generate s = .error e ∨ ∃ g first, d.generate s = .ok g ∧
        taken.lookup g.entry.moduleName = some first ∧
          e = .collision g.entry.moduleName first d.name := by
  rw [generateUnclaimed_eq_bind]
  cases d.generate s with
  | error e' => simp [Except.bind]
  | ok g' =>
      -- The document is good by itself, so only the name of its module can be in the way.
      simp only [Except.bind, claimName, Except.ok.injEq, reduceCtorEq, false_or]
      cases free : taken.lookup g'.entry.moduleName with
      | none =>
          simp only [reduceCtorEq, false_iff, not_exists, not_and]
          rintro g first rfl held
          rw [free] at held
          cases held
      | some first =>
          simp only [Except.error.injEq]
          constructor
          · rintro rfl
            exact ⟨g', first, rfl, free, rfl⟩
          · rintro ⟨g, first', rfl, held, rfl⟩
            rw [free] at held
            cases held
            rfl

/-- The module for a cluster that was read from a file. -/
def moduleOf (s : Settings) (file : String) (c : Cluster) : GeneratedModule :=
  { entry := {
      clusterId := c.resolve.cluster.id
      clusterName := c.resolve.cluster.name
      moduleName := moduleNameOf file
      sourceFile := file
      hasAttributes := c.resolve.cluster.hasAttributes }
    code := c.resolve.source s file
    skipped := c.resolve.skipped s }

theorem eq_of_checkTokens {name text code : String} (h : checkTokens name text = .ok code) :
    code = text ∧ Lexical.tokenizes text = true := by
  unfold checkTokens at h
  split at h
  · next tokens => exact ⟨(Except.ok.inj h).symm, tokens⟩
  · cases h

/-- A module is the one of the cluster in the file. -/
theorem eq_moduleOf_of_generate (h : d.generate s = .ok g) :
    ∃ text c, d.text = .ok text ∧ readCluster text = .ok c ∧
      Lexical.tokenizes (c.resolve.source s d.name) = true ∧ g = moduleOf s d.name c := by
  unfold Document.generate GeneratedModule.ofDocument at h
  rcases exists_of_bind_eq_ok h with ⟨text, read, generated⟩
  rcases exists_of_bind_eq_ok generated with ⟨c, parsed, checked⟩
  dsimp only at checked
  rcases exists_of_bind_eq_ok checked with ⟨code, passed, same⟩
  rcases eq_of_checkTokens passed with ⟨rfl, tokens⟩
  have found : d.text = .ok text := by
    cases content : d.text with
    | error e =>
        rw [content] at read
        cases read
    | ok text' =>
        rw [content] at read
        rw [Except.ok.inj read]
  exact ⟨text, c, found, parsed, tokens, (Except.ok.inj same).symm⟩

/-- A module bears the name that its file gives it. -/
theorem entry_of_generate (h : d.generate s = .ok g) :
    g.entry.sourceFile = d.name ∧ g.entry.moduleName = moduleNameOf d.name := by
  rcases eq_moduleOf_of_generate h with ⟨text, c, -, -, -, rfl⟩
  simp only [moduleOf, and_self]

end Unclaimed

/-! ## A run -/

/-- The names that are taken after some documents. -/
def takenAfter (s : Settings) (taken : List (String × String)) :
    List Document → List (String × String)
  | [] => taken
  | d :: rest =>
    match generateUnclaimed s taken d with
    | .ok g => takenAfter s ((g.entry.moduleName, d.name) :: taken) rest
    | .error _ => takenAfter s taken rest

section Run

variable {s : Settings} {taken : List (String × String)} {docs : List Document} {n : String}

theorem generateAll_cons (d : Document) (rest : List Document) :
    generateAll s taken (d :: rest) =
      (d.name, generateUnclaimed s taken d) :: generateAll s (takenAfter s taken [d]) rest := by
  rw [generateAll]
  cases h : generateUnclaimed s taken d <;> simp [takenAfter, h]

theorem takenAfter_cons (d : Document) (rest : List Document) :
    takenAfter s taken (d :: rest) = takenAfter s (takenAfter s taken [d]) rest := by
  rw [takenAfter]
  cases h : generateUnclaimed s taken d <;> simp [takenAfter, h]

/-- A document takes the name that it offers if the name is free. -/
theorem lookup_takenAfter_singleton (d : Document) :
    (takenAfter s taken [d]).lookup n =
      (taken.lookup n).or (if d.offers s n then some d.name else none) := by
  cases h : generateUnclaimed s taken d with
  | ok g =>
      rcases generateUnclaimed_eq_ok_iff.1 h with ⟨generated, free⟩
      have offers : d.offers s n = (n == g.entry.moduleName) := by
        rw [Document.offers, generated, Bool.beq_comm]
      simp only [takenAfter, h, List.lookup_cons, offers]
      cases same : n == g.entry.moduleName with
      | true =>
          rw [beq_iff_eq.1 same, free]
          rfl
      | false => simp
  | error e =>
      simp only [takenAfter, h]
      cases offered : d.offers s n with
      | false => simp
      | true =>
          -- The document fails although it has a module, so that its name was taken before.
          rcases Document.offers_iff.1 offered with ⟨g, generated, rfl⟩
          cases held : taken.lookup g.entry.moduleName with
          | some first => rfl
          | none =>
              rw [generateUnclaimed_eq_ok_iff.2 ⟨generated, held⟩] at h
              cases h

/-- A name that was free belongs to the first document that offers it. -/
theorem lookup_takenAfter :
    (takenAfter s taken docs).lookup n =
      (taken.lookup n).or ((docs.find? (·.offers s n)).map Document.name) := by
  -- The names taken before are generalised, since each document hands its own on to the rest.
  induction docs generalizing taken with
  | nil => simp [takenAfter]
  | cons d docs ih =>
      rw [takenAfter_cons, ih, lookup_takenAfter_singleton, Option.or_assoc, List.find?_cons]
      cases d.offers s n <;> simp

theorem generateAll_append (before after : List Document) :
    generateAll s taken (before ++ after) =
      generateAll s taken before ++ generateAll s (takenAfter s taken before) after := by
  induction before generalizing taken with
  | nil => rfl
  | cons d before ih =>
      rw [List.cons_append, generateAll_cons, ih, generateAll_cons, ← takenAfter_cons,
        List.cons_append]

theorem names_generateAll : (generateAll s taken docs).map Prod.fst = docs.map Document.name := by
  induction docs generalizing taken with
  | nil => rfl
  | cons d docs ih => rw [generateAll_cons, List.map_cons, ih, List.map_cons]

/-- What becomes of a document depends on the documents before it only through the names that they
have taken. -/
theorem mem_generateAll_iff {file : String} {result : Except GenerateError GeneratedModule} :
    (file, result) ∈ generateAll s taken docs ↔
      ∃ before d after, docs = before ++ d :: after ∧ d.name = file ∧
        generateUnclaimed s (takenAfter s taken before) d = result := by
  constructor
  · intro h
    induction docs generalizing taken with
    | nil => cases h
    | cons d docs ih =>
        rw [generateAll_cons] at h
        rcases List.mem_cons.1 h with same | h
        · cases same
          exact ⟨[], d, docs, rfl, rfl, rfl⟩
        · rcases ih h with ⟨before, d', after, rfl, named, result⟩
          rw [← takenAfter_cons] at result
          exact ⟨d :: before, d', after, rfl, named, result⟩
  · rintro ⟨before, d, after, rfl, rfl, rfl⟩
    rw [generateAll_append, generateAll_cons]
    exact List.mem_append_right _ List.mem_cons_self

theorem lookup_eq_none_of_mem {file : String} {g : GeneratedModule}
    (h : (file, .ok g) ∈ generateAll s taken docs) :
    taken.lookup g.entry.moduleName = none := by
  rcases mem_generateAll_iff.1 h with ⟨before, d, after, -, -, generated⟩
  have free := (generateUnclaimed_eq_ok_iff.1 generated).2
  rw [lookup_takenAfter] at free
  exact (Option.or_eq_none_iff.1 free).1

end Run

/-! ## The report -/

namespace BatchReport

variable {r : BatchReport} {g : GeneratedModule}

theorem mem_modules_iff : g ∈ r.modules ↔ ∃ file, (file, .ok g) ∈ r.results := by
  rw [modules, List.mem_filterMap]
  constructor
  · rintro ⟨⟨file, result⟩, h, ok⟩
    cases result with
    | error e => cases ok
    | ok g' =>
        cases ok
        exact ⟨file, h⟩
  · rintro ⟨file, h⟩
    exact ⟨(file, .ok g), h, rfl⟩

theorem mem_failed_iff {file : String} {e : GenerateError} :
    (file, e) ∈ r.failed ↔ (file, .error e) ∈ r.results := by
  rw [failed, List.mem_filterMap]
  constructor
  · rintro ⟨⟨file', result⟩, h, error⟩
    cases result with
    | ok g => cases error
    | error e' =>
        cases error
        exact h
  · intro h
    exact ⟨(file, .error e), h, rfl⟩

/-- A file is reported either with a module or as failed. -/
theorem perm_files (own : ∀ file g, (file, .ok g) ∈ r.results → g.entry.sourceFile = file) :
    (r.modules.map (·.entry.sourceFile) ++ r.failed.map Prod.fst).Perm
      (r.results.map Prod.fst) := by
  rcases r with ⟨results⟩
  simp only [modules, failed]
  induction results with
  | nil => exact .refl []
  | cons entry results ih =>
      have rest := ih fun file g h => own file g (.tail _ h)
      rcases entry with ⟨file, result⟩
      cases result with
      | ok g =>
          have named : g.entry.sourceFile = file := own file g List.mem_cons_self
          subst named
          exact rest.cons g.entry.sourceFile
      -- A failed file moves behind the files with a module.
      | error e => exact List.perm_middle.trans (rest.cons file)

theorem failed_sublist (r : BatchReport) :
    (r.failed.map Prod.fst).Sublist (r.results.map Prod.fst) := by
  rcases r with ⟨results⟩
  simp only [failed]
  induction results with
  | nil => exact .slnil
  | cons entry results ih =>
      rcases entry with ⟨file, result⟩
      cases result with
      | ok g => exact .cons file ih
      | error e => exact .cons_cons file ih

theorem nodup_moduleNames {s : Settings} {taken : List (String × String)} {docs : List Document} :
    ((BatchReport.mk (generateAll s taken docs)).modules.map (·.entry.moduleName)).Nodup := by
  induction docs generalizing taken with
  | nil => exact List.nodup_nil
  | cons d docs ih =>
      cases h : generateUnclaimed s taken d with
      | error e =>
          have rest : (BatchReport.mk (generateAll s taken (d :: docs))).modules =
              (BatchReport.mk (generateAll s (takenAfter s taken [d]) docs)).modules := by
            rw [generateAll_cons, h]
            rfl
          rw [rest]
          exact ih
      | ok g =>
          have rest : (BatchReport.mk (generateAll s taken (d :: docs))).modules =
              g :: (BatchReport.mk (generateAll s (takenAfter s taken [d]) docs)).modules := by
            rw [generateAll_cons, h]
            rfl
          rw [rest, List.map_cons]
          refine List.nodup_cons.2 ⟨fun mem => ?_, ih⟩
          -- A later module of this name would have found the name free.
          rcases List.mem_map.1 mem with ⟨g', hg', same⟩
          rcases mem_modules_iff.1 hg' with ⟨file, later⟩
          have free := lookup_eq_none_of_mem later
          have offered : d.offers s g.entry.moduleName = true :=
            Document.offers_iff.2 ⟨g, (generateUnclaimed_eq_ok_iff.1 h).1, rfl⟩
          rw [same, lookup_takenAfter_singleton, offered] at free
          cases (Option.or_eq_none_iff.1 free).2

end BatchReport

end ClusterCodec

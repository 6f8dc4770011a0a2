import ClusterCodec.Proofs.BatchRun
import Mathlib.Data.List.Nodup

/-!
# BatchAccount — what a batch reports and what it writes

- `Gets`, `Fails`: a document has the module that it offers if it is the first to offer the name and
  the dispatchers do not have it; otherwise it fails, and why.
- `Store`: the files of a directory; `Store.putAll` writes files one after the other.
- `BatchReport.Accounts`: the report, the manifest and the written files agree with the directory.
- `accounts_of`: every run gives such a report.
-/

namespace ClusterCodec

/-! ## Documents -/

section Documents

variable {s : Settings} {before : List Document} {d : Document}

/-- After the documents before it, a document has the module that it offers. -/
structure Gets (s : Settings) (before : List Document) (d : Document) (g : GeneratedModule) :
    Prop where
  generated : d.generate s = .ok g
  unreserved : g.entry.moduleName ∉ dispatcherModules
  first : ∀ b ∈ before, b.offers s g.entry.moduleName = false

/-- After the documents before it, a document is left without a module. -/
inductive Fails (s : Settings) (before : List Document) (d : Document) : GenerateError → Prop where
  /-- It has none to offer. -/
  | alone {e : GenerateError} : d.generate s = .error e → Fails s before d e
  | reserved {g : GeneratedModule} : d.generate s = .ok g →
      g.entry.moduleName ∈ dispatcherModules →
        Fails s before d (.collision g.entry.moduleName "<generated dispatcher>" d.name)
  /-- Another document has the module of this name. -/
  | later {g g' : GeneratedModule} {front back : List Document} {first : Document} :
      d.generate s = .ok g → before = front ++ first :: back → Gets s front first g' →
        g'.entry.moduleName = g.entry.moduleName →
          Fails s before d (.collision g.entry.moduleName first.name d.name)

theorem lookup_takenByDispatchers (n : String) :
    takenByDispatchers.lookup n =
      if n ∈ dispatcherModules then some "<generated dispatcher>" else none := by
  by_cases reserved : n ∈ dispatcherModules
  · rw [if_pos reserved, takenByDispatchers, List.lookup_graph _ reserved]
  · rw [if_neg reserved, List.lookup_eq_none_iff]
    intro entry mem
    rcases List.mem_map.1 mem with ⟨name, listed, rfl⟩
    exact bne_iff_ne.2 fun same => reserved (same ▸ listed)

theorem find?_offers_eq_some_iff {docs : List Document} {n : String} {first : Document} :
    docs.find? (·.offers s n) = some first ↔
      first.offers s n = true ∧ ∃ front back, docs = front ++ first :: back ∧
        ∀ b ∈ front, b.offers s n = false := by
  simp [List.find?_eq_some_iff_append]

theorem generateUnclaimed_eq_ok_iff_gets {g : GeneratedModule} :
    generateUnclaimed s (takenAfter s takenByDispatchers before) d = .ok g ↔
      Gets s before d g := by
  rw [generateUnclaimed_eq_ok_iff, lookup_takenAfter, Option.or_eq_none_iff,
    lookup_takenByDispatchers, Option.map_eq_none_iff, List.find?_eq_none]
  constructor
  · rintro ⟨generated, unreserved, first⟩
    refine ⟨generated, ?_, fun b hb => ?_⟩
    · intro reserved
      rw [if_pos reserved] at unreserved
      cases unreserved
    · exact Bool.eq_false_iff.2 (first b hb)
  · rintro ⟨generated, unreserved, first⟩
    exact ⟨generated, if_neg unreserved, fun b hb => Bool.eq_false_iff.1 (first b hb)⟩

theorem generateUnclaimed_eq_error_iff_fails {e : GenerateError} :
    generateUnclaimed s (takenAfter s takenByDispatchers before) d = .error e ↔
      Fails s before d e := by
  rw [generateUnclaimed_eq_error_iff]
  constructor
  · rintro (alone | ⟨g, first, generated, held, rfl⟩)
    · exact .alone alone
    · rw [lookup_takenAfter, lookup_takenByDispatchers] at held
      by_cases reserved : g.entry.moduleName ∈ dispatcherModules
      · rw [if_pos reserved] at held
        cases held
        exact .reserved generated reserved
      · rw [if_neg reserved, Option.none_or] at held
        -- The holder is the first document that offers the name, and so gets it.
        rcases Option.map_eq_some_iff.1 held with ⟨holder, found, rfl⟩
        rcases find?_offers_eq_some_iff.1 found with ⟨offers, front, back, split, earlier⟩
        rcases Document.offers_iff.1 offers with ⟨g', generated', same⟩
        exact .later generated split
          ⟨generated', same ▸ reserved, fun b hb => same ▸ earlier b hb⟩ same
  · intro fails
    cases fails with
    | alone error => exact .inl error
    | reserved generated reserved =>
      refine .inr ⟨_, _, generated, ?_, rfl⟩
      rw [lookup_takenAfter, lookup_takenByDispatchers, if_pos reserved]
      rfl
    | @later g g' front back first generated split gets same =>
      refine .inr ⟨g, first.name, generated, ?_, rfl⟩
      have offers : first.offers s g.entry.moduleName = true :=
        Document.offers_iff.2 ⟨g', gets.generated, same⟩
      have found := find?_offers_eq_some_iff.2
        ⟨offers, front, back, split, fun b hb => same ▸ gets.first b hb⟩
      rw [lookup_takenAfter, lookup_takenByDispatchers, if_neg (same ▸ gets.unreserved), found]
      rfl

end Documents

/-! ## Files -/

/-- The files of a directory, by name. -/
def Store := String → Option String

namespace Store

def empty : Store :=
  fun _ => none

/-- Writes a file. A file of this name is replaced. -/
def put (store : Store) (name text : String) : Store :=
  fun n => if n = name then some text else store n

/-- Writes files one after the other. -/
def putAll (store : Store) (files : List (String × String)) : Store :=
  files.foldl (fun store file => store.put file.1 file.2) store

variable {files : List (String × String)} {name text : String}

/-- Files with different names are all there at the end. -/
theorem putAll_eq_some_iff (distinct : (files.map Prod.fst).Nodup) :
    empty.putAll files name = some text ↔ (name, text) ∈ files := by
  -- Over any store: a name that is not written keeps its text, and one that is written is final.
  suffices general : ∀ store : Store, store.putAll files name = some text ↔
      (name, text) ∈ files ∨ name ∉ files.map Prod.fst ∧ store name = some text by
    simp [general, empty]
  intro store
  induction files generalizing store with
  | nil => simp [putAll]
  | cons file files ih =>
      rcases file with ⟨name', text'⟩
      rcases List.nodup_cons.1 distinct with ⟨fresh, distinct⟩
      rw [putAll, List.foldl_cons, ← putAll, ih distinct]
      by_cases same : name = name'
      · subst same
        have absent : (name, text) ∉ files := fun mem => fresh (List.mem_map.2 ⟨_, mem, rfl⟩)
        simp [put, absent, fresh, eq_comm]
      · simp [put, same]

end Store

/-! ## The account -/

/-- The files that join the modules of a manifest. -/
inductive Joining (s : Settings) (manifest : List ManifestEntry) : String → String → Prop where
  | attributeJson : Joining s manifest "attribute_json.rs" (attributeJsonText s manifest)
  | attributeNames : Joining s manifest "attribute_names.rs" (attributeNamesText manifest)
  | modules : s.moduleFile = true → Joining s manifest "mod.rs" (moduleFileText manifest)

namespace BatchReport

/-- A report agrees with a directory, and the files written for it agree with the report. -/
structure Accounts (s : Settings) (d : Directory) (r : BatchReport) : Prop where
  /-- The order in which the directory lists its entries does not matter. -/
  anyOrder : ∀ d' : Directory, d'.toList.Perm d.toList → BatchReport.of s d' = r
  listed : ∀ doc, doc ∈ d.documents ↔ ∃ e ∈ d.toList, e.document? = some doc
  sorted : (d.documents.map Document.name).Pairwise (· < ·)
  once : (r.manifest.map ManifestEntry.sourceFile ++ r.failed.map Prod.fst).Perm
    (d.documents.map Document.name)
  processed : r.processed = r.manifest.length
  total : r.processed + r.failed.length = d.documents.length
  failedSorted : (r.failed.map Prod.fst).Pairwise (· < ·)
  manifestSorted : r.manifest.Pairwise StrictlyBefore
  moduleNames : (r.manifest.map ManifestEntry.moduleName).Nodup
  unreserved : ∀ e ∈ r.manifest, e.moduleName ∉ ["attribute_json", "attribute_names", "mod"]
  /-- The entries are those of the documents that get a module. -/
  entries : ∀ e, e ∈ r.manifest ↔ ∃ before doc after g,
    d.documents = before ++ doc :: after ∧ Gets s before doc g ∧ g.entry = e
  failures : ∀ file e, (file, e) ∈ r.failed ↔ ∃ before doc after,
    d.documents = before ++ doc :: after ∧ doc.name = file ∧ Fails s before doc e
  /-- Of the documents that offer a name the first has it, and the others fail because of it. -/
  firstWins : ∀ n ∉ dispatcherModules, ∀ front first back,
    d.documents = front ++ first :: back → first.offers s n = true →
      (∀ b ∈ front, b.offers s n = false) →
        (∃ e ∈ r.manifest, e.moduleName = n ∧ e.sourceFile = first.name) ∧
        ∀ later ∈ back, later.offers s n = true →
          (later.name, .collision n first.name later.name) ∈ r.failed
  neverReplaced : ((r.outputs s).map Prod.fst).Nodup
  files : ∀ name text, Store.empty.putAll (r.outputs s) name = some text ↔
    (∃ e ∈ r.manifest, name = fileOf e.moduleName ∧ ∃ doc ∈ d.documents,
      doc.name = e.sourceFile ∧ ∃ g, doc.generate s = .ok g ∧ g.code = text) ∨
    r.manifest ≠ [] ∧ Joining s r.manifest name text

theorem manifest_perm (r : BatchReport) :
    r.manifest.Perm (r.modules.map GeneratedModule.entry) :=
  sortManifest_perm _

theorem processed_eq_length (r : BatchReport) : r.processed = r.manifest.length := by
  rw [r.manifest_perm.length_eq, List.length_map, processed]

section Run

variable {s : Settings} {d : Directory}

theorem mem_modules_of_iff {g : GeneratedModule} :
    g ∈ (of s d).modules ↔
      ∃ before doc after, d.documents = before ++ doc :: after ∧ Gets s before doc g := by
  rw [mem_modules_iff]
  constructor
  · rintro ⟨file, mem⟩
    rcases mem_generateAll_iff.1 mem with ⟨before, doc, after, split, -, result⟩
    exact ⟨before, doc, after, split, generateUnclaimed_eq_ok_iff_gets.1 result⟩
  · rintro ⟨before, doc, after, split, gets⟩
    exact ⟨doc.name, mem_generateAll_iff.2
      ⟨before, doc, after, split, rfl, generateUnclaimed_eq_ok_iff_gets.2 gets⟩⟩

theorem mem_manifest_of_iff {e : ManifestEntry} :
    e ∈ (of s d).manifest ↔ ∃ before doc after g,
      d.documents = before ++ doc :: after ∧ Gets s before doc g ∧ g.entry = e := by
  rw [(manifest_perm _).mem_iff, List.mem_map]
  simp only [mem_modules_of_iff]
  constructor
  · rintro ⟨g, ⟨before, doc, after, split, gets⟩, entry⟩
    exact ⟨before, doc, after, g, split, gets, entry⟩
  · rintro ⟨before, doc, after, g, split, gets, entry⟩
    exact ⟨g, ⟨before, doc, after, split, gets⟩, entry⟩

theorem mem_failed_of_iff {file : String} {e : GenerateError} :
    (file, e) ∈ (of s d).failed ↔ ∃ before doc after,
      d.documents = before ++ doc :: after ∧ doc.name = file ∧ Fails s before doc e := by
  rw [mem_failed_iff]
  simp only [of, mem_generateAll_iff, generateUnclaimed_eq_error_iff_fails]

theorem firstWins_of {n : String} {front back : List Document} {first : Document}
    (free : n ∉ dispatcherModules) (split : d.documents = front ++ first :: back)
    (offers : first.offers s n = true) (earlier : ∀ b ∈ front, b.offers s n = false) :
    (∃ e ∈ (of s d).manifest, e.moduleName = n ∧ e.sourceFile = first.name) ∧
      ∀ later ∈ back, later.offers s n = true →
        (later.name, .collision n first.name later.name) ∈ (of s d).failed := by
  rcases Document.offers_iff.1 offers with ⟨g, generated, rfl⟩
  have gets : Gets s front first g := ⟨generated, free, earlier⟩
  constructor
  · exact ⟨g.entry, mem_manifest_of_iff.2 ⟨front, first, back, g, split, gets, rfl⟩, rfl,
      (entry_of_generate generated).1⟩
  · intro later mem offered
    rcases Document.offers_iff.1 offered with ⟨g', generated', same⟩
    rcases List.append_of_mem mem with ⟨between, after, rfl⟩
    rw [← same]
    refine mem_failed_of_iff.2 ⟨front ++ first :: between, later, after, ?_, rfl,
      .later generated' rfl gets same.symm⟩
    rw [split, List.append_assoc, List.cons_append]

theorem perm_files_of :
    ((of s d).manifest.map ManifestEntry.sourceFile ++ (of s d).failed.map Prod.fst).Perm
      (d.documents.map Document.name) := by
  have own : ∀ file g, (file, .ok g) ∈ (of s d).results → g.entry.sourceFile = file := by
    intro file g mem
    rcases mem_generateAll_iff.1 mem with ⟨before, doc, after, -, rfl, result⟩
    exact (entry_of_generate (generateUnclaimed_eq_ok_iff.1 result).1).1
  have sorted := (of s d).manifest_perm.map ManifestEntry.sourceFile
  rw [List.map_map] at sorted
  have listed : (of s d).results.map Prod.fst = d.documents.map Document.name := names_generateAll
  exact (sorted.append_right _).trans (listed ▸ perm_files own)

/-- A module is named neither like a dispatcher nor like the file of the modules. -/
theorem unreserved_of_mem {e : ManifestEntry} (h : e ∈ (of s d).manifest) :
    e.moduleName ∉ ["attribute_json", "attribute_names", "mod"] := by
  rcases mem_manifest_of_iff.1 h with ⟨before, doc, after, g, -, gets, rfl⟩
  have notMod : g.entry.moduleName ≠ "mod" := by
    rw [(entry_of_generate gets.generated).2]
    intro same
    -- The word is reserved, and a stem that gives it is set apart from it.
    refine Name.Identifier.ofModule_notMem_reservedWords (FileName.stem doc.name) ?_
    rw [moduleNameOf] at same
    rw [same]
    decide
  intro mem
  rcases List.mem_append.1 (show _ ∈ dispatcherModules ++ ["mod"] from mem) with mem | mem
  · exact gets.unreserved mem
  · exact notMod (List.mem_singleton.1 mem)

end Run

/-! ## The files of a report -/

section Files

variable {s : Settings} {r : BatchReport} {name text : String}

theorem mem_joiningFiles_iff :
    (name, text) ∈ r.joiningFiles s ↔ Joining s r.manifest name text := by
  constructor
  · intro mem
    rcases List.mem_append.1 mem with mem | mem
    · rcases List.mem_cons.1 mem with same | mem
      · cases same
        exact .attributeJson
      · cases List.mem_singleton.1 mem
        exact .attributeNames
    · split at mem
      · next moduleFile =>
        cases List.mem_singleton.1 mem
        exact .modules moduleFile
      · cases mem
  · intro joining
    cases joining with
    | attributeJson => exact List.mem_append_left _ List.mem_cons_self
    | attributeNames => exact List.mem_append_left _ (.tail _ List.mem_cons_self)
    | modules moduleFile =>
      refine List.mem_append_right _ ?_
      rw [if_pos moduleFile]
      exact List.mem_singleton_self _

theorem nodup_joiningFiles : ((r.joiningFiles s).map Prod.fst).Nodup := by
  unfold joiningFiles
  cases s.moduleFile <;> simp [fileOf, attributeJsonModule, attributeNamesModule]

theorem fileOf_injective : Function.Injective fileOf := by
  intro a b same
  exact (String.append_left_inj _).1 same

theorem exists_fileOf_of_joining (h : Joining s r.manifest name text) :
    ∃ n ∈ ["attribute_json", "attribute_names", "mod"], name = fileOf n := by
  cases h with
  | attributeJson => exact ⟨"attribute_json", by decide, by decide⟩
  | attributeNames => exact ⟨"attribute_names", by decide, by decide⟩
  | modules _ => exact ⟨"mod", by decide, by decide⟩

theorem succeeded_iff : r.succeeded = true ↔ r.manifest ≠ [] := by
  rw [succeeded, Bool.not_eq_true', List.isEmpty_eq_false_iff, ← List.length_pos_iff,
    ← List.length_pos_iff, ← processed_eq_length, processed]

theorem mem_outputs_iff :
    (name, text) ∈ r.outputs s ↔
      (∃ g ∈ r.modules, name = fileOf g.entry.moduleName ∧ g.code = text) ∨
        r.manifest ≠ [] ∧ Joining s r.manifest name text := by
  rw [outputs, List.mem_append, ← succeeded_iff, ← mem_joiningFiles_iff]
  refine or_congr ?_ ?_
  · simp only [List.mem_map, Prod.mk.injEq, eq_comm]
  · cases r.succeeded <;> simp

end Files

theorem nodup_outputs_of {s : Settings} {d : Directory} :
    (((of s d).outputs s).map Prod.fst).Nodup := by
  have names : ((of s d).modules.map (·.entry.moduleName)).Nodup := nodup_moduleNames
  have modules : (((of s d).modules.map fun g => (fileOf g.entry.moduleName, g.code)).map
      Prod.fst).Nodup := by
    have files := List.Nodup.map fileOf_injective names
    rw [List.map_map] at files ⊢
    exact files
  unfold outputs
  rw [List.map_append]
  refine List.nodup_append.2 ⟨modules, ?_, ?_⟩
  · cases (of s d).succeeded
    · exact List.nodup_nil
    · exact nodup_joiningFiles
  · -- The manifest gives no module the name of a file that joins them.
    intro name ofModule name' joins same
    subst same
    rcases List.mem_map.1 ofModule with ⟨file, listed, rfl⟩
    rcases List.mem_map.1 listed with ⟨g, mem, rfl⟩
    have entry : g.entry ∈ (of s d).manifest :=
      (manifest_perm _).mem_iff.2 (List.mem_map.2 ⟨g, mem, rfl⟩)
    split at joins
    · rcases List.mem_map.1 joins with ⟨⟨name, text⟩, joins, same⟩
      rcases exists_fileOf_of_joining (mem_joiningFiles_iff.1 joins) with ⟨n, reserved, file⟩
      have taken : g.entry.moduleName = n := fileOf_injective (same.symm.trans file)
      exact unreserved_of_mem entry (taken ▸ reserved)
    · cases joins

/-- The code of a module is the one that the document of its entry gives. -/
theorem exists_module_of_iff {s : Settings} {d : Directory} {name text : String} :
    (∃ g ∈ (of s d).modules, name = fileOf g.entry.moduleName ∧ g.code = text) ↔
      ∃ e ∈ (of s d).manifest, name = fileOf e.moduleName ∧ ∃ doc ∈ d.documents,
        doc.name = e.sourceFile ∧ ∃ g, doc.generate s = .ok g ∧ g.code = text := by
  constructor
  · rintro ⟨g, mem, named, code⟩
    rcases mem_modules_of_iff.1 mem with ⟨before, doc, after, split, gets⟩
    have listed : doc ∈ d.documents := split ▸ List.mem_append_right _ List.mem_cons_self
    exact ⟨g.entry, mem_manifest_of_iff.2 ⟨before, doc, after, g, split, gets, rfl⟩, named, doc,
      listed, (entry_of_generate gets.generated).1.symm, g, gets.generated, code⟩
  · rintro ⟨e, mem, named, doc, listed, source, g, generated, code⟩
    rcases mem_manifest_of_iff.1 mem with ⟨before, doc', after, g', split, gets, rfl⟩
    have listed' : doc' ∈ d.documents := split ▸ List.mem_append_right _ List.mem_cons_self
    -- The source file of the entry names one document.
    have same : doc = doc' := List.inj_on_of_nodup_map d.nodup_names_documents listed listed'
      (source.trans (entry_of_generate gets.generated).1)
    subst same
    have result : g = g' := Except.ok.inj (generated.symm.trans gets.generated)
    subst result
    exact ⟨g, mem_modules_of_iff.2 ⟨before, doc, after, split, gets⟩, named, code⟩

/-- Every run accounts for its directory. -/
theorem accounts_of (s : Settings) (d : Directory) : (of s d).Accounts s d := by
  have names : (((of s d).modules.map GeneratedModule.entry).map
      ManifestEntry.moduleName).Nodup := by
    rw [List.map_map]
    exact nodup_moduleNames
  have once := perm_files_of (s := s) (d := d)
  exact {
    anyOrder := fun d' perm => by rw [of, of, Directory.documents_eq_of_perm perm]
    listed := fun doc => Directory.mem_documents_iff
    sorted := d.pairwise_documents
    once := once
    processed := processed_eq_length _
    total := by
      rw [processed_eq_length]
      simpa using once.length_eq
    failedSorted := by
      refine d.pairwise_documents.sublist ?_
      have files := failed_sublist (of s d)
      rwa [show (of s d).results.map Prod.fst = _ from names_generateAll] at files
    manifestSorted := pairwise_sortManifest names
    moduleNames := ((manifest_perm _).map _).nodup_iff.2 names
    unreserved := fun e => unreserved_of_mem
    entries := fun e => mem_manifest_of_iff
    failures := fun file e => mem_failed_of_iff
    firstWins := fun n free front first back => firstWins_of free
    neverReplaced := nodup_outputs_of
    files := fun name text => by
      rw [Store.putAll_eq_some_iff nodup_outputs_of, mem_outputs_iff, exists_module_of_iff] }

end BatchReport

end ClusterCodec

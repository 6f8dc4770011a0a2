import ClusterCodec.Batch.Dispatch

/-!
# Report — generating the modules of a directory

- `Directory`: named entries; a file holds bytes, unless it cannot be read.
- `Directory.documents`: the files that are read, in the order of their names
  (`pairwise_documents`), however the directory lists them (`documents_eq_of_perm`).
- `BatchReport.of`: every document with its module or the reason why there is none. The first document
  that gives a module name takes it.
- `BatchReport.manifest`, `failed`, `skipped`, `outputs`: what is reported and what is written.
-/

namespace ClusterCodec

/-! ## Input -/

inductive EntryContent where
  | file (bytes : ByteArray)
  /-- A file that cannot be read, and why. -/
  | unreadable (reason : String)
  | directory

structure DirectoryEntry where
  name : String
  content : EntryContent

instance : Named DirectoryEntry := ⟨DirectoryEntry.name⟩

abbrev Directory := SymbolTable DirectoryEntry

/-- The text of a file. -/
def textOfBytes (bytes : ByteArray) : Except String String :=
  match String.fromUTF8? bytes with
  | some text => .ok text
  | none => .error "stream did not contain valid UTF-8"

/-- A file and its text, or the reason why there is none. -/
structure Document where
  name : String
  text : Except String String

/-- An entry as a document: a file with the extension of documents. -/
def DirectoryEntry.document? (e : DirectoryEntry) : Option Document :=
  if FileName.extension? e.name = some "xml" then
    match e.content with
    | .file bytes => some ⟨e.name, textOfBytes bytes⟩
    | .unreadable reason => some ⟨e.name, .error reason⟩
    | .directory => none
  else none

/-- The documents, sorted by name. -/
def Directory.documents (d : Directory) : List Document :=
  (d.toList.filterMap DirectoryEntry.document?).mergeSort fun a b => decide (a.name ≤ b.name)

theorem DirectoryEntry.name_of_document? {e : DirectoryEntry} {doc : Document}
    (h : e.document? = some doc) : doc.name = e.name := by
  unfold document? at h
  split at h
  · split at h <;> cases h <;> rfl
  · cases h

theorem Directory.mem_documents_iff {d : Directory} {doc : Document} :
    doc ∈ d.documents ↔ ∃ e ∈ d.toList, e.document? = some doc := by
  rw [documents, (List.mergeSort_perm _ _).mem_iff, List.mem_filterMap]

theorem Directory.nodup_names_documents (d : Directory) :
    (d.documents.map Document.name).Nodup := by
  have sub : ((d.toList.filterMap DirectoryEntry.document?).map Document.name).Sublist
      (d.toList.map Named.name) := by
    induction d.toList with
    | nil => exact .slnil
    | cons e entries ih =>
      cases h : e.document? with
      | none => simpa [h] using ih.cons _
      | some doc =>
        simp only [List.filterMap_cons, h, List.map_cons, DirectoryEntry.name_of_document? h]
        exact ih.cons_cons _
  exact ((List.mergeSort_perm _ _).map _).nodup_iff.2 (sub.nodup d.distinct)

/-- The names of a directory are different, so that the order has no ties. -/
theorem Directory.pairwise_documents (d : Directory) :
    (d.documents.map Document.name).Pairwise (· < ·) := by
  have sorted : d.documents.Pairwise fun a b => a.name ≤ b.name :=
    pairwise_mergeSort_key Document.name _
  refine List.pairwise_map.2 (sorted.imp₂ (fun a b le ne => ?_)
    (List.pairwise_map.1 d.nodup_names_documents))
  exact String.not_le.1 fun ge => ne (String.le_antisymm le ge)

/-- The order in which a directory lists its entries does not matter. -/
theorem Directory.documents_eq_of_perm {d d' : Directory} (h : d.toList.Perm d'.toList) :
    d.documents = d'.documents := by
  have perm : d.documents.Perm d'.documents :=
    (List.mergeSort_perm _ _).trans ((h.filterMap _).trans (List.mergeSort_perm _ _).symm)
  refine perm.eq_of_pairwise (fun a b _ _ lt gt => ?_) (List.pairwise_map.1 d.pairwise_documents)
    (List.pairwise_map.1 d'.pairwise_documents)
  exact (String.lt_irrefl _ (String.lt_trans lt gt)).elim

/-! ## Processing -/

/-- The module of a document, when some module names are taken by other sources. -/
def generateUnclaimed (s : Settings) (taken : List (String × String)) (d : Document) :
    Except GenerateError GeneratedModule := do
  let text ← d.text.mapError .file
  let generated ← GeneratedModule.ofDocument s d.name text
  match taken.lookup generated.entry.moduleName with
  | some first => .error (.collision generated.entry.moduleName first d.name)
  | none => .ok generated

/-- The results for some documents in order. A module takes its name. -/
def generateAll (s : Settings) (taken : List (String × String)) :
    List Document → List (String × Except GenerateError GeneratedModule)
  | [] => []
  | d :: rest =>
    match generateUnclaimed s taken d with
    | .ok generated =>
      (d.name, .ok generated) ::
        generateAll s ((generated.entry.moduleName, d.name) :: taken) rest
    -- A document that fails leaves its module name to later ones.
    | .error e => (d.name, .error e) :: generateAll s taken rest

/-- The names that the joining files take. -/
def takenByDispatchers : List (String × String) :=
  dispatcherModules.map (·, "<generated dispatcher>")

/-- The results of a run, by file name in the order of the documents. -/
structure BatchReport where
  results : List (String × Except GenerateError GeneratedModule)

namespace BatchReport

def of (s : Settings) (d : Directory) : BatchReport :=
  ⟨generateAll s takenByDispatchers d.documents⟩

def modules (r : BatchReport) : List GeneratedModule :=
  r.results.filterMap (·.2.toOption)

def processed (r : BatchReport) : Nat :=
  r.modules.length

def succeeded (r : BatchReport) : Bool :=
  !r.modules.isEmpty

/-- The files without a module, with the reasons. -/
def failed (r : BatchReport) : List (String × GenerateError) :=
  r.results.filterMap fun (file, result) =>
    match result with
    | .ok _ => none
    | .error e => some (file, e)

/-- The items that were left out, with their files. -/
def skipped (r : BatchReport) : List (String × Skipped) :=
  r.modules.flatMap fun m => m.skipped.map (m.entry.sourceFile, ·)

/-- The modules, by cluster id and module name. -/
def manifest (r : BatchReport) : List ManifestEntry :=
  sortManifest (r.modules.map GeneratedModule.entry)

/-! ## Output -/

def fileOf (moduleName : String) : String :=
  moduleName ++ ".rs"

/-- The files that join the modules. -/
def joiningFiles (r : BatchReport) (s : Settings) : List (String × String) :=
  [ (fileOf attributeJsonModule, attributeJsonText s r.manifest),
    (fileOf attributeNamesModule, attributeNamesText r.manifest)] ++
    if s.moduleFile then [(fileOf "mod", moduleFileText r.manifest)] else []

/-- The files to write, by name: one for each module, and the joining files if there is any. -/
def outputs (r : BatchReport) (s : Settings) : List (String × String) :=
  r.modules.map (fun m => (fileOf m.entry.moduleName, m.code)) ++
    if r.succeeded then r.joiningFiles s else []

end BatchReport
end ClusterCodec

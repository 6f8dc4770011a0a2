import ClusterCodec.Proofs.BatchAccount

/-!
# FailureIsolation — files that fail leave the other files alone

- `Directory.Without`: the same entries, without the files of some names.
- `generateAll_filter`: documents that fail may be left out of a run.
- `BatchReport.results_of_without`: so may the files that a report gives as failed.
- `BatchReport.unchanged_without_failed`: the run on what remains reports the same modules and writes
  the same files.
-/

namespace ClusterCodec

/-! ## Removing files -/

namespace Directory

variable {d d' : Directory} {removed : List String}

/-- The entries of `d` that are not removed are those of `d'`, in any order. -/
def Without (d : Directory) (removed : List String) (d' : Directory) : Prop :=
  d'.toList.Perm (d.toList.filter fun e => e.name ∉ removed)

/-- What is left of the documents stands in the same order. -/
theorem documents_of_without (h : d.Without removed d') :
    d'.documents = d.documents.filter fun doc => doc.name ∉ removed := by
  have entries : (d.toList.filter fun e => e.name ∉ removed).filterMap DirectoryEntry.document? =
      (d.toList.filterMap DirectoryEntry.document?).filter fun doc => doc.name ∉ removed := by
    rw [List.filterMap_filter, List.filter_filterMap]
    refine List.filterMap_congr fun e _ => ?_
    cases found : e.document? with
    | none => simp
    | some doc => simp only [Option.filter_some, DirectoryEntry.name_of_document? found]
  have perm : d'.documents.Perm (d.documents.filter fun doc => doc.name ∉ removed) := by
    refine (List.mergeSort_perm _ _).trans ((h.filterMap _).trans ?_)
    rw [entries]
    exact ((List.mergeSort_perm _ _).filter _).symm
  -- Both lists are sorted by distinct names, so that no order but one is left.
  refine perm.eq_of_pairwise (fun a b _ _ lt gt => ?_) (List.pairwise_map.1 d'.pairwise_documents)
    ((List.pairwise_map.1 d.pairwise_documents).filter _)
  exact (String.lt_irrefl _ (String.lt_trans lt gt)).elim

end Directory

/-! ## Leaving failed documents out -/

/-- A document that fails takes no name, so that the documents after it fare the same without it. -/
theorem generateAll_filter {s : Settings} {taken : List (String × String)} {docs : List Document}
    {removed : List String}
    (kept : ∀ file g, (file, .ok g) ∈ generateAll s taken docs → file ∉ removed) :
    generateAll s taken (docs.filter fun doc => doc.name ∉ removed) =
      (generateAll s taken docs).filter fun result => result.1 ∉ removed := by
  -- The taken names are general, since each module adds its own.
  induction docs generalizing taken with
  | nil => rfl
  | cons d docs ih =>
      rw [generateAll_cons] at kept ⊢
      have rest := ih fun file g later => kept file g (List.mem_cons_of_mem _ later)
      by_cases out : d.name ∈ removed
      · have same : takenAfter s taken [d] = taken := by
          cases result : generateUnclaimed s taken d with
          | ok g => exact (kept d.name g (result ▸ List.mem_cons_self) out).elim
          | error e => simp only [takenAfter, result]
        rw [List.filter_cons_of_neg (by simpa using out), List.filter_cons_of_neg (by simpa using out),
          ← rest, same]
      · rw [List.filter_cons_of_pos (by simpa using out), List.filter_cons_of_pos (by simpa using out),
          generateAll_cons, rest]

namespace BatchReport

variable {s : Settings} {d d' : Directory} {removed : List String}

/-- A file that failed is not among those with a module. -/
theorem notMem_of_ok (failing : ∀ file ∈ removed, file ∈ (of s d).failed.map Prod.fst)
    {file : String} {g : GeneratedModule} (h : (file, .ok g) ∈ (of s d).results) : file ∉ removed := by
  intro out
  rcases List.mem_map.1 (failing file out) with ⟨⟨file', e⟩, failed, rfl⟩
  have distinct : ((of s d).results.map Prod.fst).Nodup := by
    rw [show (of s d).results.map Prod.fst = _ from names_generateAll]
    exact d.nodup_names_documents
  cases List.inj_on_of_nodup_map distinct h (mem_failed_iff.1 failed) rfl

theorem results_of_without (failing : ∀ file ∈ removed, file ∈ (of s d).failed.map Prod.fst)
    (remains : d.Without removed d') :
    (of s d').results = (of s d).results.filter fun result => result.1 ∉ removed := by
  simp only [of, Directory.documents_of_without remains]
  exact generateAll_filter fun file g => notMem_of_ok failing

section Filtered

variable {r r' : BatchReport}

theorem modules_of_results (results : r'.results = r.results.filter fun result => result.1 ∉ removed)
    (kept : ∀ file g, (file, .ok g) ∈ r.results → file ∉ removed) : r'.modules = r.modules := by
  rw [modules, modules, results, List.filterMap_filter]
  refine List.filterMap_congr fun result mem => ?_
  rcases result with ⟨file, result⟩
  cases result with
  | ok g => rw [if_pos (decide_eq_true (kept file g mem))]
  | error e => exact ite_self _

theorem failed_of_results
    (results : r'.results = r.results.filter fun result => result.1 ∉ removed) :
    r'.failed = r.failed.filter fun failure => failure.1 ∉ removed := by
  rw [failed, failed, results, List.filterMap_filter, List.filter_filterMap]
  refine List.filterMap_congr fun result _ => ?_
  rcases result with ⟨file, result⟩
  cases result with
  | ok g => exact ite_self _
  | error e => simp only [Option.filter_some]

end Filtered

/-- Files that fail have no influence: a run without some of them gives every other file the same
result.  The manifest, the number of modules, the skipped items and the written files are the same,
and of the failures those of the removed files are gone. -/
theorem unchanged_without_failed
    (failing : ∀ file ∈ removed, file ∈ (of s d).failed.map Prod.fst)
    (remains : d.Without removed d') :
    (of s d').results = (of s d).results.filter (fun result => result.1 ∉ removed) ∧
      (of s d').manifest = (of s d).manifest ∧
      (of s d').processed = (of s d).processed ∧
      (of s d').skipped = (of s d).skipped ∧
      (of s d').failed = (of s d).failed.filter (fun failure => failure.1 ∉ removed) ∧
      Store.empty.putAll ((of s d').outputs s) = Store.empty.putAll ((of s d).outputs s) := by
  have results := results_of_without failing remains
  have modules : (of s d').modules = (of s d).modules :=
    modules_of_results results fun file g => notMem_of_ok failing
  have manifest : (of s d').manifest = (of s d).manifest := by
    rw [BatchReport.manifest, modules, BatchReport.manifest]
  have files : (of s d').outputs s = (of s d).outputs s := by
    rw [outputs, outputs, succeeded, succeeded, joiningFiles, joiningFiles, modules, manifest]
  refine ⟨results, manifest, ?_, ?_, failed_of_results results, congrArg _ files⟩
  · rw [processed_eq_length, processed_eq_length, manifest]
  · rw [skipped, skipped, modules]

/-- A document whose root is not closed by its own name, one with the module of that name, and one
that cannot be read. -/
def levelTests : Directory :=
  .ofList [
    ⟨"Level Test.xml", .file "<cluster></attributes>".toUTF8⟩,
    ⟨"Level-Test.xml", .file "<cluster id=\"0x0008\" name=\"Level\"/>".toUTF8⟩,
    ⟨"Locked.xml", .unreadable "Permission denied"⟩]

def levelTest : Directory :=
  .ofList [⟨"Level-Test.xml", .file "<cluster id=\"0x0008\" name=\"Level\"/>".toUTF8⟩]

theorem documents_levelTests : levelTests.documents =
    [⟨"Level Test.xml", .ok "<cluster></attributes>"⟩,
      ⟨"Level-Test.xml", .ok "<cluster id=\"0x0008\" name=\"Level\"/>"⟩,
      ⟨"Locked.xml", .error "Permission denied"⟩] := by
  refine (List.mergeSort_of_pairwise ?_).trans ?_
  · decide +kernel
  · rfl

theorem failed_of_isNone {doc : Document} (listed : doc ∈ d.documents)
    (none : (doc.generate s).toOption.isNone = true) :
    doc.name ∈ (of s d).failed.map Prod.fst := by
  rcases List.append_of_mem listed with ⟨before, after, split⟩
  cases generated : doc.generate s with
  | ok g =>
      rw [generated] at none
      cases none
  | error e =>
      exact List.mem_map.2 ⟨(doc.name, e),
        mem_failed_of_iff.2 ⟨before, doc, after, split, rfl, .alone generated⟩, rfl⟩

/-- The file that is not closed stands before the one with a module, and the unreadable one after
it. -/
theorem unchanged_without_failed_levelTests :
    (∀ file ∈ ["Locked.xml", "Level Test.xml"],
        file ∈ (of {} levelTests).failed.map Prod.fst) ∧
      levelTests.Without ["Locked.xml", "Level Test.xml"] levelTest ∧
      (of {} levelTest).manifest = (of {} levelTests).manifest ∧
      (of {} levelTest).failed = (of {} levelTests).failed.filter
        (fun failure => failure.1 ∉ ["Locked.xml", "Level Test.xml"]) := by
  have unclosed : "Level Test.xml" ∈ (of {} levelTests).failed.map Prod.fst :=
    have listed : ⟨"Level Test.xml", .ok "<cluster></attributes>"⟩ ∈ levelTests.documents :=
      documents_levelTests ▸ .head _
    failed_of_isNone listed (by decide +kernel)
  have unreadable : "Locked.xml" ∈ (of {} levelTests).failed.map Prod.fst :=
    have listed : ⟨"Locked.xml", .error "Permission denied"⟩ ∈ levelTests.documents :=
      documents_levelTests ▸ .tail _ (.tail _ (.head _))
    failed_of_isNone listed rfl
  have failing : ∀ file ∈ ["Locked.xml", "Level Test.xml"],
      file ∈ (of {} levelTests).failed.map Prod.fst :=
    List.forall_mem_cons.2 ⟨unreadable, List.forall_mem_singleton.2 unclosed⟩
  have remains : levelTests.Without ["Locked.xml", "Level Test.xml"] levelTest := .refl _
  rcases unchanged_without_failed failing remains with ⟨-, manifest, -, -, failed, -⟩
  exact ⟨failing, remains, manifest, failed⟩

end BatchReport

end ClusterCodec

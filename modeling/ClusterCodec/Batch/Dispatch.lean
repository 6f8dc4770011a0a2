import ClusterCodec.Batch.GeneratedModule

/-!
# Dispatch — the files that join all modules

- `manifestBefore`, `sortManifest`: the order of a manifest, by cluster id and module name.
- `StrictlyBefore`, `pairwise_sortManifest`: the same order without ties.
- `routed`: the modules that are reached by cluster id, one for each id.
- `attributeJsonText`, `attributeNamesText`: the two dispatchers.
- `moduleFileText`: the file that declares every module.
-/

namespace ClusterCodec

open Text

/-- The module of the dispatcher that decodes attributes. -/
def attributeJsonModule : String := "attribute_json"

/-- The module of the dispatcher that lists attributes. -/
def attributeNamesModule : String := "attribute_names"

def dispatcherModules : List String := [attributeJsonModule, attributeNamesModule]

/-! ## Order -/

/-- By cluster id, then by module name. -/
def manifestBefore (a b : ManifestEntry) : Bool :=
  a.clusterId < b.clusterId || (a.clusterId == b.clusterId && a.moduleName ≤ b.moduleName)

/-- By cluster id, then by module name, and not the same in both. -/
def StrictlyBefore (a b : ManifestEntry) : Prop :=
  a.clusterId < b.clusterId ∨ a.clusterId = b.clusterId ∧ a.moduleName < b.moduleName

theorem manifestBefore_iff {a b : ManifestEntry} :
    manifestBefore a b = true ↔
      a.clusterId < b.clusterId ∨ a.clusterId = b.clusterId ∧ a.moduleName ≤ b.moduleName := by
  simp [manifestBefore]

theorem manifestBefore_trans (a b c : ManifestEntry) (ab : manifestBefore a b = true)
    (bc : manifestBefore b c = true) : manifestBefore a c = true := by
  rw [manifestBefore_iff] at ab bc ⊢
  rcases ab with ab | ⟨ab, names⟩
  · rcases bc with bc | ⟨bc, -⟩
    · exact .inl (UInt32.lt_trans ab bc)
    · exact .inl (bc ▸ ab)
  · rcases bc with bc | ⟨bc, names'⟩
    · exact .inl (ab ▸ bc)
    · exact .inr ⟨ab.trans bc, String.le_trans names names'⟩

theorem manifestBefore_total (a b : ManifestEntry) :
    (manifestBefore a b || manifestBefore b a) = true := by
  rw [Bool.or_eq_true, manifestBefore_iff, manifestBefore_iff]
  by_cases same : a.clusterId = b.clusterId
  · rcases String.le_total a.moduleName b.moduleName with names | names
    · exact .inl (.inr ⟨same, names⟩)
    · exact .inr (.inr ⟨same.symm, names⟩)
  · rcases UInt32.lt_or_lt_of_ne same with ids | ids
    · exact .inl (.inl ids)
    · exact .inr (.inl ids)

/-- A list that is sorted by a name. -/
theorem pairwise_mergeSort_key {α : Type} (key : α → String) (l : List α) :
    (l.mergeSort fun a b => decide (key a ≤ key b)).Pairwise fun a b => key a ≤ key b := by
  refine (List.pairwise_mergeSort ?_ ?_ l).imp of_decide_eq_true
  · intro a b c ab bc
    exact decide_eq_true (String.le_trans (of_decide_eq_true ab) (of_decide_eq_true bc))
  · intro a b
    simpa using String.le_total (key a) (key b)

def sortManifest (manifest : List ManifestEntry) : List ManifestEntry :=
  manifest.mergeSort manifestBefore

theorem sortManifest_perm (manifest : List ManifestEntry) :
    (sortManifest manifest).Perm manifest :=
  List.mergeSort_perm manifest manifestBefore

/-- Entries with different module names are sorted without ties. -/
theorem pairwise_sortManifest {manifest : List ManifestEntry}
    (distinct : (manifest.map ManifestEntry.moduleName).Nodup) :
    (sortManifest manifest).Pairwise StrictlyBefore := by
  have sorted := List.pairwise_mergeSort manifestBefore_trans manifestBefore_total manifest
  have apart := ((sortManifest_perm manifest).map ManifestEntry.moduleName).nodup_iff.2 distinct
  refine sorted.imp₂ (fun a b before names => ?_) (List.pairwise_map.1 apart)
  rcases manifestBefore_iff.1 before with ids | ⟨same, le⟩
  · exact .inl ids
  · exact .inr ⟨same, String.not_le.1 fun ge => names (String.le_antisymm le ge)⟩

/-- The modules with attributes, by cluster id; of those with one id the first by name. -/
def routed (manifest : List ManifestEntry) : List ManifestEntry :=
  keepFirst ManifestEntry.clusterId (sortManifest (manifest.filter ManifestEntry.hasAttributes))

/-- Every module name once, sorted, with the dispatchers among them. -/
def declaredModules (manifest : List ManifestEntry) : List String :=
  keepFirst id ((manifest.map ManifestEntry.moduleName ++ dispatcherModules).mergeSort
    fun a b => decide (a ≤ b))

/-! ## Text -/

def fileHeader (title : String) : String :=
  "//! " ++ title ++ "\n//!\n//! This file is automatically generated.\n\n"

/-- An arm that passes the arguments on to the function of a module. The name of the module stands
as it is: what follows a line break in it is not indented. -/
def routeText (function arguments : String) (entry : ManifestEntry) : String :=
  indent 2 (idText entry.clusterId ++ " => super::") ++ entry.moduleName ++ "::" ++ function ++
    "(" ++ arguments ++ "),\n"

/-- A function that chooses a module by cluster id. -/
def routingFunction (signature function arguments otherwise : String)
    (manifest : List ManifestEntry) : String :=
  "pub fn " ++ signature ++ " \x7b\n" ++
    indent 1 "match cluster_id \x7b\n" ++
    String.join ((routed manifest).map (routeText function arguments)) ++
    indent 2 ("_ => " ++ otherwise ++ ",\n") ++
    indent 1 "\x7d\n" ++ "\x7d\n"

def attributeJsonText (s : Settings) (manifest : List ManifestEntry) : String :=
  fileHeader "Attribute JSON dispatcher across all generated clusters" ++ s.tlvImport ++ "\n\n" ++
    docLine "Decode an attribute of any generated cluster and return it as a JSON string" ++
    "///\n" ++
    docLine "# Parameters" ++
    docLine "* `cluster_id` - The cluster identifier" ++
    docLine "* `attribute_id` - The attribute identifier" ++
    docLine "* `tlv_value` - The TLV value to decode" ++
    routingFunction dispatcherSignature dispatcherName "cluster_id, attribute_id, tlv_value"
      (errorFormat "Unsupported cluster ID: \x7b\x7d" "cluster_id") manifest

def attributeNamesText (manifest : List ManifestEntry) : String :=
  fileHeader "Attribute name tables across all generated clusters" ++
    docLine "Get the `(attribute_id, attribute_name)` list of a generated cluster" ++ "///\n" ++
    docLine "Unknown clusters yield an empty list." ++
    routingFunction (attributeListName ++ "(cluster_id: u32) -> Vec<(u32, &'static str)>")
      attributeListName "" "vec![]" manifest

def moduleFileText (manifest : List ManifestEntry) : String :=
  fileHeader "Generated Matter cluster TLV encoders and decoders" ++
    String.join ((declaredModules manifest).map fun name => "pub mod " ++ name ++ ";\n")

end ClusterCodec

import ClusterCodec.Proofs.BatchAccount
import ClusterCodec.Proofs.ModulePieces
import Mathlib.Data.List.Sort

/-!
# ClusterRouting — where the dispatchers send a cluster id

- `routes`, `IsRoute`, `mem_routes_iff`: an id is sent to the first module by name that has attributes
  and the id; `pairwise_routes`: one route for each id, by id.
- `routes_of_perm`, `declaredModules_of_perm`: the order of the manifest does not matter.
- `RoutesBy`: a text ends with a function that has one arm for each route.
- `Unordered`: a text is the same for all orders of the manifest.
- `Resolved.Answers`: the code of a module has what the dispatchers call, and answers to the id.
- `BatchReport.Routing`, `routing_of`: the dispatchers of a run send each id to a declared module that
  answers to it.
-/

namespace ClusterCodec

open Text

/-! ## Routes -/

/-- The id of a cluster and the name of its module. -/
def ManifestEntry.route (e : ManifestEntry) : UInt32 × String :=
  (e.clusterId, e.moduleName)

/-- Where the dispatchers send each id. -/
def routes (manifest : List ManifestEntry) : List (UInt32 × String) :=
  (routed manifest).map ManifestEntry.route

/-- The module is the first by name of those with attributes and this id. -/
structure IsRoute (manifest : List ManifestEntry) (n : UInt32) (name : String) : Prop where
  entry : ∃ e ∈ manifest, e.hasAttributes = true ∧ e.clusterId = n ∧ e.moduleName = name
  least : ∀ e ∈ manifest, e.hasAttributes = true → e.clusterId = n → name ≤ e.moduleName

section Routes

variable {manifest manifest' : List ManifestEntry} {n : UInt32} {name name' : String}

theorem IsRoute.unique (h : IsRoute manifest n name) (h' : IsRoute manifest n name') :
    name = name' := by
  rcases h.entry with ⟨e, he, attributes, id, rfl⟩
  rcases h'.entry with ⟨e', he', attributes', id', rfl⟩
  exact String.le_antisymm (h.least e' he' attributes' id') (h'.least e he attributes id)

theorem isRoute_of_perm (h : manifest.Perm manifest') (route : IsRoute manifest n name) :
    IsRoute manifest' n name := by
  rcases route.entry with ⟨e, he, found⟩
  exact ⟨⟨e, h.mem_iff.1 he, found⟩, fun e' he' => route.least e' (h.mem_iff.2 he')⟩

/-- The entries that may be routed. -/
theorem mem_sorted_iff {e : ManifestEntry} :
    e ∈ sortManifest (manifest.filter ManifestEntry.hasAttributes) ↔
      e ∈ manifest ∧ e.hasAttributes = true := by
  rw [(sortManifest_perm _).mem_iff, List.mem_filter]

theorem pairwise_sorted :
    (sortManifest (manifest.filter ManifestEntry.hasAttributes)).Pairwise fun a b =>
      manifestBefore a b = true :=
  List.pairwise_mergeSort manifestBefore_trans manifestBefore_total _

/-- One route for each id, by id. -/
theorem pairwise_routes : (routes manifest).Pairwise fun p q => p.1 < q.1 := by
  have sorted : (routed manifest).Pairwise fun a b => manifestBefore a b = true :=
    pairwise_sorted.sublist (keepFirst_sublist ManifestEntry.clusterId _)
  have distinct : ((routed manifest).map ManifestEntry.clusterId).Nodup :=
    nodup_keys_keepFirst ManifestEntry.clusterId _
  refine List.pairwise_map.2 (sorted.imp₂ (fun a b before ids => ?_) (List.pairwise_map.1 distinct))
  rcases manifestBefore_iff.1 before with lt | ⟨same, -⟩
  · exact lt
  · exact (ids same).elim

theorem isRoute_of_mem_routed {e : ManifestEntry} (h : e ∈ routed manifest) :
    IsRoute manifest e.clusterId e.moduleName := by
  rcases mem_keepFirst_iff.1 h with ⟨before, after, split, first⟩
  have listed : e ∈ manifest ∧ e.hasAttributes = true := by
    rw [← mem_sorted_iff, split]
    exact List.mem_append_right _ List.mem_cons_self
  have sorted : (before ++ e :: after).Pairwise fun a b => manifestBefore a b = true :=
    split ▸ pairwise_sorted
  refine ⟨⟨e, listed.1, listed.2, rfl, rfl⟩, fun e' he' attributes id => ?_⟩
  have mem := mem_sorted_iff.2 ⟨he', attributes⟩
  rw [split] at mem
  -- An entry with this id stands at the place of `e` or behind it.
  rcases List.mem_append.1 mem with mem | mem
  · exact (first e' mem id).elim
  · rcases List.mem_cons.1 mem with rfl | mem
    · exact String.le_refl _
    · have behind := (List.pairwise_cons.1 (List.pairwise_append.1 sorted).2.1).1 e' mem
      rcases manifestBefore_iff.1 behind with lt | ⟨-, le⟩
      · rw [id] at lt
        exact (UInt32.lt_irrefl _ lt).elim
      · exact le

theorem mem_ids_routes_iff :
    n ∈ (routes manifest).map Prod.fst ↔
      ∃ e ∈ manifest, e.hasAttributes = true ∧ e.clusterId = n := by
  have ids : (routes manifest).map Prod.fst = (routed manifest).map ManifestEntry.clusterId := by
    rw [routes, List.map_map]
    rfl
  rw [ids, routed, mem_keys_keepFirst_iff, List.mem_map]
  simp only [mem_sorted_iff, and_assoc]

/-- The routes are those to the first module of each id. -/
theorem mem_routes_iff : (n, name) ∈ routes manifest ↔ IsRoute manifest n name := by
  constructor
  · intro h
    rcases List.mem_map.1 h with ⟨e, he, same⟩
    rcases Prod.mk.inj same with ⟨rfl, rfl⟩
    exact isRoute_of_mem_routed he
  · intro route
    rcases route.entry with ⟨e, he, attributes, id, -⟩
    rcases List.mem_map.1 (mem_ids_routes_iff.2 ⟨e, he, attributes, id⟩) with ⟨⟨m, other⟩, h, rfl⟩
    rcases List.mem_map.1 h with ⟨e', he', same⟩
    rcases Prod.mk.inj same with ⟨rfl, rfl⟩
    -- The id has a route, and no other module is the first of its modules.
    rw [route.unique (isRoute_of_mem_routed he')]
    exact h

theorem routes_of_perm (h : manifest.Perm manifest') : routes manifest = routes manifest' := by
  -- Both lists are increasing, so that their members decide them.
  have irrefl : Std.Irrefl fun p q : UInt32 × String => p.1 < q.1 :=
    ⟨fun p => UInt32.lt_irrefl p.1⟩
  have antisymm : Std.Antisymm fun p q : UInt32 × String => p.1 < q.1 :=
    ⟨fun p q lt gt => (UInt32.lt_irrefl p.1 (UInt32.lt_trans lt gt)).elim⟩
  refine pairwise_routes.eq_of_mem_iff pairwise_routes fun p => ?_
  rcases p with ⟨n, name⟩
  rw [mem_routes_iff, mem_routes_iff]
  constructor
  · exact isRoute_of_perm h
  · exact isRoute_of_perm h.symm

/-! ## Declared modules -/

theorem mem_declaredModules_iff :
    name ∈ declaredModules manifest ↔
      (∃ e ∈ manifest, e.moduleName = name) ∨ name ∈ dispatcherModules := by
  rw [declaredModules, ← List.map_id (keepFirst id _), mem_keys_keepFirst_iff, List.map_id,
    (List.mergeSort_perm _ _).mem_iff, List.mem_append, List.mem_map]

/-- Each module is declared once, and the names are sorted. -/
theorem pairwise_declaredModules : (declaredModules manifest).Pairwise (· < ·) := by
  have sorted : (declaredModules manifest).Pairwise (· ≤ ·) :=
    (pairwise_mergeSort_key id _).sublist (keepFirst_sublist id _)
  have distinct : ((declaredModules manifest).map id).Nodup := nodup_keys_keepFirst id _
  refine sorted.imp₂ (fun a b le ne => ?_) (List.pairwise_map.1 distinct)
  exact String.not_le.1 fun ge => ne (String.le_antisymm le ge)

theorem declaredModules_of_perm (h : manifest.Perm manifest') :
    declaredModules manifest = declaredModules manifest' := by
  refine pairwise_declaredModules.eq_of_mem_iff pairwise_declaredModules fun name => ?_
  simp only [mem_declaredModules_iff, h.mem_iff]

end Routes

/-! ## Text -/

/-- An arm that passes the arguments on to the function of a module. -/
def routeArm (function arguments : String) (route : UInt32 × String) : String :=
  "        " ++ idText route.1 ++ " => super::" ++ route.2 ++ "::" ++ function ++ "(" ++
    arguments ++ "),\n"

/-- A function that chooses by cluster id: one arm for each route, and one for all other ids. -/
def routesText (signature function arguments otherwise : String)
    (routes : List (UInt32 × String)) : String :=
  "pub fn " ++ signature ++ " \x7b\n" ++ "    match cluster_id \x7b\n" ++
    String.join (routes.map (routeArm function arguments)) ++
    ("        _ => " ++ otherwise ++ ",\n") ++ "    \x7d\n" ++ "\x7d\n"

theorem routeText_eq (function arguments : String) (e : ManifestEntry) :
    routeText function arguments e = routeArm function arguments e.route := by
  have solid : Solid (idText e.clusterId ++ " => super::") := by
    constructor
    · simpa using break_notMem_idText e.clusterId
    · exact ⟨'s', by simp, by decide⟩
  have margins : margin 2 = "        " := by decide
  unfold routeText routeArm ManifestEntry.route
  rw [indent_unbroken solid, margins]
  simp only [String.append_assoc]

theorem routingFunction_eq {signature function arguments otherwise : String}
    (unbroken : '\n' ∉ otherwise.toList) (manifest : List ManifestEntry) :
    routingFunction signature function arguments otherwise manifest =
      routesText signature function arguments otherwise (routes manifest) := by
  have solidHead : Solid "match cluster_id \x7b" := ⟨by decide, 'm', by decide, by decide⟩
  have solidClose : Solid "\x7d" := ⟨by decide, '\x7d', by decide, by decide⟩
  have solidRest : Solid ("_ => " ++ otherwise ++ ",") :=
    ⟨by simpa using unbroken, '_', by simp, by decide⟩
  have head : indent 1 "match cluster_id \x7b\n" = "    match cluster_id \x7b\n" :=
    (indent_line solidHead (by decide) 1).trans (by decide)
  have close : indent 1 "\x7d\n" = "    \x7d\n" :=
    (indent_line solidClose (by decide) 1).trans (by decide)
  have rest : indent 2 ("_ => " ++ otherwise ++ ",\n") = "        _ => " ++ otherwise ++ ",\n" :=
    (indent_line solidRest (String.toList_inj.1 (by simp)) 2).trans
      (String.toList_inj.1 (by simp [margin]))
  -- What is written for a module depends on its route alone.
  have arms : (routed manifest).map (routeText function arguments) =
      (routes manifest).map (routeArm function arguments) := by
    rw [routes, List.map_map]
    exact List.map_congr_left fun e _ => routeText_eq function arguments e
  unfold routingFunction routesText
  rw [head, close, rest, arms]

/-- The function of the dispatcher that decodes attributes. -/
def jsonRoutesText (routes : List (UInt32 × String)) : String :=
  routesText dispatcherSignature dispatcherName "cluster_id, attribute_id, tlv_value"
    (errorFormat "Unsupported cluster ID: \x7b\x7d" "cluster_id") routes

/-- The function of the dispatcher that lists attributes. -/
def nameRoutesText (routes : List (UInt32 × String)) : String :=
  routesText (attributeListName ++ "(cluster_id: u32) -> Vec<(u32, &'static str)>")
    attributeListName "" "vec![]" routes

/-- What stands above the function that decodes attributes. -/
def attributeJsonHead (s : Settings) : String :=
  fileHeader "Attribute JSON dispatcher across all generated clusters" ++ s.tlvImport ++ "\n\n" ++
    docLine "Decode an attribute of any generated cluster and return it as a JSON string" ++
    "///\n" ++
    docLine "# Parameters" ++
    docLine "* `cluster_id` - The cluster identifier" ++
    docLine "* `attribute_id` - The attribute identifier" ++
    docLine "* `tlv_value` - The TLV value to decode"

/-- What stands above the function that lists attributes. -/
def attributeNamesHead : String :=
  fileHeader "Attribute name tables across all generated clusters" ++
    docLine "Get the `(attribute_id, attribute_name)` list of a generated cluster" ++ "///\n" ++
    docLine "Unknown clusters yield an empty list."

/-- Of the manifest only the routes are in the text. -/
theorem attributeJsonText_eq (s : Settings) (manifest : List ManifestEntry) :
    attributeJsonText s manifest = attributeJsonHead s ++ jsonRoutesText (routes manifest) := by
  have unbroken : '\n' ∉
      (errorFormat "Unsupported cluster ID: \x7b\x7d" "cluster_id").toList := by
    decide +kernel
  rw [attributeJsonText, routingFunction_eq unbroken]
  rfl

theorem attributeNamesText_eq (manifest : List ManifestEntry) :
    attributeNamesText manifest = attributeNamesHead ++ nameRoutesText (routes manifest) := by
  have unbroken : '\n' ∉ "vec![]".toList := by decide
  rw [attributeNamesText, routingFunction_eq unbroken]
  rfl

/-- The text is the same for all orders of a manifest. -/
def Unordered (text : List ManifestEntry → String) : Prop :=
  ∀ manifest manifest' : List ManifestEntry, manifest.Perm manifest' →
    text manifest = text manifest'

theorem unordered_attributeJsonText (s : Settings) : Unordered (attributeJsonText s) := by
  intro manifest manifest' perm
  rw [attributeJsonText_eq, attributeJsonText_eq, routes_of_perm perm]

theorem unordered_attributeNamesText : Unordered attributeNamesText := by
  intro manifest manifest' perm
  rw [attributeNamesText_eq, attributeNamesText_eq, routes_of_perm perm]

theorem unordered_moduleFileText : Unordered moduleFileText := by
  intro manifest manifest' perm
  rw [moduleFileText, moduleFileText, declaredModules_of_perm perm]

/-- The file of the modules declares each module of the manifest. -/
theorem exists_moduleFileText_eq {manifest : List ManifestEntry} {e : ManifestEntry}
    (h : e ∈ manifest) :
    ∃ front back, moduleFileText manifest =
      front ++ ("pub mod " ++ e.moduleName ++ ";\n") ++ back := by
  have declared : e.moduleName ∈ declaredModules manifest :=
    mem_declaredModules_iff.2 (.inl ⟨e, h, rfl⟩)
  rcases exists_join_eq_of_mem (List.mem_map_of_mem
    (f := fun name => "pub mod " ++ name ++ ";\n") declared) with ⟨front, back, text⟩
  refine ⟨fileHeader "Generated Matter cluster TLV encoders and decoders" ++ front, back, ?_⟩
  rw [moduleFileText, text]
  simp only [String.append_assoc]

/-! ## The module at the end of a route -/

/-- What the code of a module has for the dispatchers: of its pieces one defines each of the two
functions, and the first function compares its argument with the id. -/
structure Resolved.Answers (r : Resolved) (s : Settings) (n : UInt32) (code : String) : Prop where
  parts : (r.sections s).flatMap ModuleSection.parts = (r.pieces s).map (Piece.text s)
  declared : ∀ p ∈ r.pieces s, ∀ f ∈ p.functionNames, Piece.Declares (p.text s) f
  dispatcher : r.DefinedOnce s dispatcherName .dispatcher
  attributeList : r.DefinedOnce s attributeListName .attributeList
  inCode : ∀ p ∈ r.pieces s, ∃ front back, code = front ++ p.text s ++ back
  guard : ∃ rest, Piece.text s (.dispatcher : Piece r) =
    dispatcherDoc (idText n) ++ ("pub fn " ++ dispatcherSignature ++ " \x7b\n" ++
      ("    if cluster_id != " ++ idText n ++ " \x7b\n") ++ rest)

theorem Resolved.answers_of_hasAttributes {r : Resolved} (s : Settings) (file : String)
    (attributes : r.cluster.hasAttributes = true) :
    r.Answers s r.cluster.id (r.source s file) where
  parts := parts_sections r s
  declared := fun _ _ _ => Piece.declares_text s
  dispatcher := definedOnce_dispatcher attributes
  attributeList := definedOnce_attributeList attributes
  inCode := fun _ hp => exists_source_eq_of_mem_pieces r s hp file
  guard := dispatcherText_guarded _

/-! ## A run -/

namespace BatchReport

variable {s : Settings} {d : Directory}

/-- The files that are written for a report. -/
def written (s : Settings) (r : BatchReport) : Store :=
  Store.empty.putAll (r.outputs s)

/-- The dispatchers send the ids of clusters with attributes to the modules of these clusters. -/
structure Routing (s : Settings) (d : Directory) (r : BatchReport) : Prop where
  /-- There is one arm for each id, and the arms stand in the order of the ids. -/
  increasing : (routes r.manifest).Pairwise fun p q => p.1 < q.1
  ids : ∀ n, n ∈ (routes r.manifest).map Prod.fst ↔
    ∃ e ∈ r.manifest, e.hasAttributes = true ∧ e.clusterId = n
  first : ∀ n name, (n, name) ∈ routes r.manifest ↔ IsRoute r.manifest n name
  attributeJson : ∀ text, written s r "attribute_json.rs" = some text ↔
    r.manifest ≠ [] ∧ text = attributeJsonHead s ++ jsonRoutesText (routes r.manifest)
  attributeNames : ∀ text, written s r "attribute_names.rs" = some text ↔
    r.manifest ≠ [] ∧ text = attributeNamesHead ++ nameRoutesText (routes r.manifest)
  declared : ∀ n name, (n, name) ∈ routes r.manifest → ∃ front back,
    moduleFileText r.manifest = front ++ ("pub mod " ++ name ++ ";\n") ++ back
  /-- The module of a route has the code of a cluster with this id. -/
  answered : ∀ n name, (n, name) ∈ routes r.manifest →
    ∃ doc ∈ d.documents, ∃ text c, doc.text = .ok text ∧ readCluster text = .ok c ∧
      written s r (fileOf name) = some (c.resolve.source s doc.name) ∧
        c.resolve.Answers s n (c.resolve.source s doc.name)

theorem written_of_eq_some_iff {name text : String} :
    written s (of s d) name = some text ↔
      (∃ g ∈ (of s d).modules, name = fileOf g.entry.moduleName ∧ g.code = text) ∨
        (of s d).manifest ≠ [] ∧ Joining s (of s d).manifest name text := by
  rw [written, Store.putAll_eq_some_iff nodup_outputs_of, mem_outputs_iff]

theorem joining_unique {name text text' : String} (h : Joining s (of s d).manifest name text)
    (h' : Joining s (of s d).manifest name text') : text = text' := by
  have file := mem_joiningFiles_iff.2 h
  have file' := mem_joiningFiles_iff.2 h'
  exact (Prod.mk.inj (List.inj_on_of_nodup_map nodup_joiningFiles file file' rfl)).2

/-- The file of a dispatcher is written with the others, and no module is written to it. -/
theorem written_dispatcher_iff {name text content : String} (reserved : name ∈ dispatcherModules)
    (joins : Joining s (of s d).manifest (fileOf name) content) :
    written s (of s d) (fileOf name) = some text ↔ (of s d).manifest ≠ [] ∧ text = content := by
  have noModule : ¬ ∃ g ∈ (of s d).modules, fileOf name = fileOf g.entry.moduleName ∧
      g.code = text := by
    rintro ⟨g, hg, file, -⟩
    rcases mem_modules_of_iff.1 hg with ⟨before, doc, after, -, gets⟩
    exact gets.unreserved (fileOf_injective file ▸ reserved)
  rw [written_of_eq_some_iff, or_iff_right noModule]
  refine and_congr_right fun _ => ?_
  constructor
  · intro joins'
    exact joining_unique joins' joins
  · rintro rfl
    exact joins

theorem answered_of_isRoute {n : UInt32} {name : String}
    (route : IsRoute (of s d).manifest n name) :
    ∃ doc ∈ d.documents, ∃ text c, doc.text = .ok text ∧ readCluster text = .ok c ∧
      written s (of s d) (fileOf name) = some (c.resolve.source s doc.name) ∧
        c.resolve.Answers s n (c.resolve.source s doc.name) := by
  rcases route.entry with ⟨e, he, attributes, rfl, rfl⟩
  rcases mem_manifest_of_iff.1 he with ⟨before, doc, after, g, split, gets, rfl⟩
  have listed : doc ∈ d.documents := by
    rw [split]
    exact List.mem_append_right _ List.mem_cons_self
  have inFile : written s (of s d) (fileOf g.entry.moduleName) = some g.code :=
    written_of_eq_some_iff.2
      (.inl ⟨g, mem_modules_of_iff.2 ⟨before, doc, after, split, gets⟩, rfl, rfl⟩)
  -- The entry was made from the cluster of the document, so that both have one id.
  rcases eq_moduleOf_of_generate gets.generated with ⟨text, c, read, parsed, -, rfl⟩
  exact ⟨doc, listed, text, c, read, parsed, inFile,
    Resolved.answers_of_hasAttributes s doc.name attributes⟩

/-- In every run the dispatchers have one arm for each id of a cluster with attributes, by id.  The
arm calls the first of the modules with this id, which is declared, has both functions and answers to
the id.  The order of the manifest does not matter for the text of the three joining files. -/
theorem routing_of (s : Settings) (d : Directory) :
    (of s d).Routing s d ∧ Unordered (attributeJsonText s) ∧ Unordered attributeNamesText ∧
      Unordered moduleFileText := by
  refine ⟨?_, unordered_attributeJsonText s, unordered_attributeNamesText,
    unordered_moduleFileText⟩
  exact {
    increasing := pairwise_routes
    ids := fun n => mem_ids_routes_iff
    first := fun n name => mem_routes_iff
    attributeJson := fun text => by
      have file : fileOf attributeJsonModule = "attribute_json.rs" := by decide
      rw [← attributeJsonText_eq, ← file]
      exact written_dispatcher_iff List.mem_cons_self (file ▸ .attributeJson)
    attributeNames := fun text => by
      have file : fileOf attributeNamesModule = "attribute_names.rs" := by decide
      rw [← attributeNamesText_eq, ← file]
      exact written_dispatcher_iff (List.mem_cons_of_mem _ List.mem_cons_self)
        (file ▸ .attributeNames)
    declared := fun n name mem => by
      rcases (mem_routes_iff.1 mem).entry with ⟨e, he, -, -, rfl⟩
      exact exists_moduleFileText_eq he
    answered := fun n name mem => answered_of_isRoute (mem_routes_iff.1 mem) }

end BatchReport
end ClusterCodec

import ClusterCodec.Resolve.Digraph
import ClusterCodec.Schema.Declaration

/-!
# Recursion — struct fields that close a cycle

- `StructTable.graph`: the declared structs; an edge for each field that refers to a declared one.
- `StructTable.closesCycle`: whether a reference lies on a cycle.
- `StructTable.recursiveEdges`: all references that lie on a cycle.
-/

namespace ClusterCodec

abbrev StructTable := SymbolTable StructDecl

namespace StructTable

/-- The declared struct that a field refers to. -/
def target? (structs : StructTable) (f : Field) : Option StructDecl :=
  f.structName?.bind structs.get?

/-- The names of the declared structs that the fields of a struct refer to. -/
def targets (structs : StructTable) (s : StructDecl) : List String :=
  s.fields.filterMap fun f => (structs.target? f).map StructDecl.name

def successors (structs : StructTable) (name : String) : List String :=
  ((structs.get? name).map structs.targets).getD []

theorem mem_names_of_get? {structs : StructTable} {name : String} {s : StructDecl}
    (h : structs.get? name = some s) : s.name ∈ structs.names :=
  List.mem_map.2 ⟨s, (SymbolTable.get?_eq_some h).1, rfl⟩

theorem mem_names_of_mem_targets {structs : StructTable} {s : StructDecl} {name : String}
    (h : name ∈ structs.targets s) : name ∈ structs.names := by
  obtain ⟨f, -, hf⟩ := List.mem_filterMap.1 h
  obtain ⟨t, ht, rfl⟩ := Option.map_eq_some_iff.1 hf
  obtain ⟨n, -, hn⟩ := Option.bind_eq_some_iff.1 ht
  exact mem_names_of_get? hn

/-- The declared structs with their references to each other. -/
def graph (structs : StructTable) : Digraph where
  nodes := structs.names
  next := structs.successors
  next_mem := by
    intro a b h
    unfold successors at h
    cases hs : structs.get? a with
    | none => simp [hs] at h
    | some s => exact mem_names_of_mem_targets (by simpa [hs] using h)

/-- Whether a reference from `owner` to `target` lies on a cycle: `target` is `owner` or leads back
to it. -/
def closesCycle (structs : StructTable) (owner target : String) : Bool :=
  structs.graph.reaches target owner

/-- The references that lie on a cycle, as pairs of struct names. -/
def recursiveEdges (structs : StructTable) : List (String × String) :=
  structs.toList.flatMap fun s =>
    ((structs.targets s).eraseDups.filter (structs.closesCycle s.name)).map fun t => (s.name, t)

theorem mem_recursiveEdges_iff {structs : StructTable} {owner target : String} :
    (owner, target) ∈ structs.recursiveEdges ↔
      ∃ s ∈ structs.toList, s.name = owner ∧ target ∈ structs.targets s ∧
        structs.closesCycle owner target = true := by
  simp only [recursiveEdges, List.mem_flatMap, List.mem_map, List.mem_filter, List.mem_eraseDups,
    Prod.mk.injEq]
  constructor
  · rintro ⟨s, hs, t, ⟨ht, hc⟩, rfl, rfl⟩
    exact ⟨s, hs, rfl, ht, hc⟩
  · rintro ⟨s, hs, rfl, ht, hc⟩
    exact ⟨s, hs, target, ⟨ht, hc⟩, rfl, rfl⟩

end StructTable
end ClusterCodec

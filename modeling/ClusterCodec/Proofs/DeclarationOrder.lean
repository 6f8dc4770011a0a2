import ClusterCodec.Resolve.Resolved
import Mathlib.Data.List.Perm.Basic

/-!
# DeclarationOrder — resolution does not look at the order of declarations

- `Digraph.Path.of_next_eq`: paths depend on the edges only, not on the order of the search.
- `mem_recursiveEdges_iff_of_get?_eq`: tables that answer alike have the same recursive references.
- `Cluster.Reordered`: two clusters that differ in the order of their declarations.
- `resolve_of_reordered`: they resolve to clusters that differ in the order of their declarations.
-/

namespace ClusterCodec

open Resolve

/-! ## Recursive references -/

theorem Digraph.Path.of_next_eq {g g' : Digraph} (same : ∀ a, g.next a = g'.next a) {a b : String}
    (h : g.Path a b) : g'.Path a b := by
  induction h with
  | refl a => exact .refl a
  | step edge _ ih => exact .step (same _ ▸ edge) ih

namespace StructTable

section Alike

variable {structs structs' : StructTable} (alike : ∀ n, structs.get? n = structs'.get? n)
include alike

theorem targets_eq_of_get?_eq (s : StructDecl) : structs.targets s = structs'.targets s := by
  have target (f : Field) : structs.target? f = structs'.target? f := by
    unfold target?
    exact congrArg f.structName?.bind (funext alike)
  simp only [targets, target]

theorem next_graph_eq_of_get?_eq (name : String) :
    structs.graph.next name = structs'.graph.next name := by
  show structs.successors name = structs'.successors name
  rw [successors, successors, alike, funext (targets_eq_of_get?_eq alike)]

theorem mem_recursiveEdges_of_get?_eq {owner target : String}
    (h : (owner, target) ∈ structs.recursiveEdges) :
    (owner, target) ∈ structs'.recursiveEdges := by
  rcases mem_recursiveEdges_iff.1 h with ⟨s, hs, rfl, ht, cycle⟩
  have node : target ∈ structs.graph.nodes := mem_names_of_mem_targets ht
  have declared : s ∈ structs'.toList := by
    have found := SymbolTable.get?_eq_some_iff.2 ⟨hs, rfl⟩
    rw [alike] at found
    exact (SymbolTable.get?_eq_some_iff.1 found).1
  rw [targets_eq_of_get?_eq alike] at ht
  have node' : target ∈ structs'.graph.nodes := mem_names_of_mem_targets ht
  -- The two searches visit the structs in different orders, so the cycle is carried over as a path.
  have back : structs.graph.Path target s.name := (Digraph.reaches_iff node).1 cycle
  have back' : structs'.graph.Path target s.name :=
    back.of_next_eq (next_graph_eq_of_get?_eq alike)
  exact mem_recursiveEdges_iff.2 ⟨s, declared, rfl, ht, (Digraph.reaches_iff node').2 back'⟩

theorem mem_recursiveEdges_iff_of_get?_eq {owner target : String} :
    (owner, target) ∈ structs.recursiveEdges ↔ (owner, target) ∈ structs'.recursiveEdges :=
  ⟨mem_recursiveEdges_of_get?_eq alike, mem_recursiveEdges_of_get?_eq fun n => (alike n).symm⟩

end Alike

end StructTable

/-! ## Collisions -/

theorem settleEnum_eq_of_mem_iff {taken taken' : List String} (same : ∀ n, n ∈ taken ↔ n ∈ taken') :
    settleEnum taken = settleEnum taken' := by
  funext e
  simp only [settleEnum, same]

theorem settleBitmap_eq_of_mem_iff {taken taken' : List String}
    (same : ∀ n, n ∈ taken ↔ n ∈ taken') : settleBitmap taken = settleBitmap taken' := by
  funext b
  simp only [settleBitmap, same]

/-! ## Clusters -/

namespace Cluster

def withoutTables (c : Cluster) : Cluster :=
  { c with structs := ∅, enums := ∅, bitmaps := ∅ }

/-- The same cluster with the declarations of each table in another order. -/
structure Reordered (c c' : Cluster) : Prop where
  enums : c.enums.toList.Perm c'.enums.toList
  bitmaps : c.bitmaps.toList.Perm c'.bitmaps.toList
  structs : c.structs.toList.Perm c'.structs.toList
  rest : c.withoutTables = c'.withoutTables

namespace Reordered

variable {c c' : Cluster} (h : c.Reordered c')
include h

theorem referredTypes : c.referredTypes.Perm c'.referredTypes := by
  have attributes : c.attributes = c'.attributes := by
    have rest := congrArg Cluster.attributes h.rest
    exact rest
  unfold Cluster.referredTypes
  rw [attributes]
  exact ((h.structs.flatMap_right _).append_left _).flatMap_right _

theorem withSharedStructs : c.withSharedStructs.toList.Perm c'.withSharedStructs.toList := by
  refine SymbolTable.perm_of_get?_eq fun n => ?_
  rw [get?_withSharedStructs, get?_withSharedStructs, SymbolTable.get?_eq_of_perm h.structs]
  simp only [h.referredTypes.mem_iff]

theorem settle : c.settle.Reordered c'.settle := by
  have structNames : (structTypeNames c.withSharedStructs).Perm
      (structTypeNames c'.withSharedStructs) := h.withSharedStructs.map _
  have enumNames : (enumTypeNames c.enums).Perm (enumTypeNames c'.enums) := h.enums.map _
  have enumPass := settleEnum_eq_of_mem_iff fun _ => structNames.mem_iff
  have bitmapPass := settleBitmap_eq_of_mem_iff fun _ => (structNames.append enumNames).mem_iff
  refine ⟨?_, ?_, h.withSharedStructs, h.rest⟩
  · show ((c.enums.toList.map (settleEnum _)).map _).Perm ((c'.enums.toList.map (settleEnum _)).map _)
    rw [enumPass]
    exact (h.enums.map _).map _
  · show ((c.bitmaps.toList.map (settleBitmap _)).map _).Perm
      ((c'.bitmaps.toList.map (settleBitmap _)).map _)
    rw [bitmapPass]
    exact (h.bitmaps.map _).map _

end Reordered

/-- Clusters that differ in the order of their declarations resolve to clusters that differ in the
order of their declarations: a name stands for the same settled declaration in both, and the same
references lie on a cycle. -/
theorem resolve_of_reordered {c c' : Cluster} (h : c.Reordered c') :
    c.resolve.cluster.Reordered c'.resolve.cluster ∧
      (∀ n, c.resolve.cluster.enums.get? n = c'.resolve.cluster.enums.get? n) ∧
      (∀ n, c.resolve.cluster.bitmaps.get? n = c'.resolve.cluster.bitmaps.get? n) ∧
      (∀ n, c.resolve.cluster.structs.get? n = c'.resolve.cluster.structs.get? n) ∧
      (∀ n, n ∈ c.resolve.cluster.structs.names ↔ n ∈ c'.resolve.cluster.structs.names) ∧
      ∀ owner target, c.resolve.isRecursive owner target = c'.resolve.isRecursive owner target := by
  have settled : c.resolve.cluster.Reordered c'.resolve.cluster := h.settle
  have structs := SymbolTable.get?_eq_of_perm settled.structs
  refine ⟨settled, SymbolTable.get?_eq_of_perm settled.enums,
    SymbolTable.get?_eq_of_perm settled.bitmaps, structs, ?_, ?_⟩
  · exact fun n => (settled.structs.map Named.name).mem_iff
  · intro owner target
    exact decide_eq_decide.2 (StructTable.mem_recursiveEdges_iff_of_get?_eq structs)

/-- Structs that refer to each other in a ring, one of them through a list; a shared struct; and an
enum and a bitmap that give way to a struct. -/
def circle : Cluster :=
  { id := 7
    idText := "0x0007"
    name := "Circle"
    enums := .ofList [
      EnumDecl.addItem { name := "NodeEnum" } 0 "Leaf" "",
      EnumDecl.addItem { name := "KindEnum" } 0 "Open" ""]
    bitmaps := .ofList [BitmapDecl.addFlag { name := "KindBitmap" } 0 "Lit" "", { name := "Bits" }]
    structs := .ofList [
      { name := "NodeStruct"
        fields := [
          { id := 0, name := "Next", typeName := "RingStruct" },
          { id := 1, name := "Place", typeName := "LocationDescriptorStruct" }] },
      { name := "RingStruct"
        fields := [
          { id := 0, name := "Nodes", typeName := "list", entryType := some "NodeStruct" }] }] }

/-- `circle` with each of its tables turned round. -/
def circleReversed : Cluster :=
  { circle with
    enums := .ofList circle.enums.toList.reverse
    bitmaps := .ofList circle.bitmaps.toList.reverse
    structs := .ofList circle.structs.toList.reverse }

theorem resolve_of_reordered_circle :
    circle.Reordered circleReversed ∧
      circle.structs.names = ["NodeStruct", "RingStruct"] ∧
      circleReversed.structs.names = ["RingStruct", "NodeStruct"] ∧
      circle.resolve.cluster.structs.get? "LocationDescriptorStruct" =
        circleReversed.resolve.cluster.structs.get? "LocationDescriptorStruct" ∧
      circleReversed.resolve.isRecursive "RingStruct" "NodeStruct" = true ∧
      circle.resolve.isRecursive "RingStruct" "NodeStruct" = true := by
  have reordered : circle.Reordered circleReversed :=
    ⟨by decide +kernel, by decide +kernel, by decide +kernel, rfl⟩
  let ringStruct : StructDecl :=
    { name := "RingStruct"
      fields := [
        { id := 0, name := "Nodes", typeName := "list", entryType := some "NodeStruct" }] }
  have ring : circleReversed.resolve.isRecursive "RingStruct" "NodeStruct" = true := by
    have node : "NodeStruct" ∈ (StructTable.graph circleReversed.resolve.cluster.structs).nodes := by
      decide +kernel
    have back : "RingStruct" ∈
        (StructTable.graph circleReversed.resolve.cluster.structs).next "NodeStruct" := by
      decide +kernel
    have cycle : StructTable.closesCycle circleReversed.resolve.cluster.structs "RingStruct"
        "NodeStruct" = true := (Digraph.reaches_iff node).2 (.step back (.refl "RingStruct"))
    refine decide_eq_true (StructTable.mem_recursiveEdges_iff.2 ⟨ringStruct, ?_, rfl, ?_, cycle⟩)
    · decide +kernel
    · decide +kernel
  rcases resolve_of_reordered reordered with ⟨-, -, -, structs, -, recursive⟩
  exact ⟨reordered, by decide +kernel, by decide +kernel, structs _, ring,
    (recursive _ _).trans ring⟩

end Cluster
end ClusterCodec

import ClusterCodec.Emit.Member

/-!
# Layout — values with every nested struct written out

- `Layout`, `Slots`: a leaf, or a struct with its kept fields and their layouts.
- `Resolved.layout`, `Resolved.slots`: the layout of a shape and of a list of fields.

Writing out comes to an end because a kept reference from one declared struct to another lies on no
cycle, so that the rank of the struct falls.
-/

namespace ClusterCodec

mutual

inductive Layout where
  | leaf (leaf : Leaf)
  | record (decl : StructDecl) (slots : Slots)

/-- The kept fields of a struct. A list field has the layout of its elements. -/
inductive Slots where
  | nil
  | cons (field : Field) (layout : Layout) (rest : Slots)

end

namespace Slots

def ofList : List (Field × Layout) → Slots
  | [] => .nil
  | (f, l) :: rest => .cons f l (ofList rest)

def toList : Slots → List (Field × Layout)
  | .nil => []
  | .cons f l rest => (f, l) :: toList rest

theorem toList_ofList (l : List (Field × Layout)) : (ofList l).toList = l := by
  induction l with
  | nil => rfl
  | cons p l ih => simp [ofList, toList, ih]

end Slots

namespace Resolved

variable {r : Resolved}

/-- The rank of a struct among the declared ones. It bounds how deep structs nest below it. -/
def depthBound (s : DeclaredStruct r) : Nat :=
  (StructTable.graph r.cluster.structs).rank s.decl.name

theorem isRecursive_eq_false {s : DeclaredStruct r} {target : String}
    (edge : target ∈ StructTable.targets r.cluster.structs s.decl)
    (h : r.isRecursive s.decl.name target = false) :
    StructTable.closesCycle r.cluster.structs s.decl.name target = false := by
  simp only [isRecursive, decide_eq_false_iff_not, r.edges_eq,
    StructTable.mem_recursiveEdges_iff] at h
  cases hc : StructTable.closesCycle r.cluster.structs s.decl.name target with
  | false => rfl
  | true => exact absurd ⟨s.decl, (SymbolTable.get?_eq_some s.declared).1, rfl, edge, hc⟩ h

theorem depthBound_lt {s t : DeclaredStruct r} {m : Member r}
    (h : m ∈ r.members (some s.decl.name) s.decl.fields) (ht : m.shape = .struct t) :
    depthBound t < depthBound s := by
  obtain ⟨hf, hs⟩ := fieldShape_of_mem_members h
  rw [ht] at hs
  obtain ⟨hn, hr⟩ := fieldShape_eq_struct hs
  have target : StructTable.target? r.cluster.structs m.field = some t.decl := by
    simp [StructTable.target?, hn, t.declared]
  have edge : t.decl.name ∈ StructTable.targets r.cluster.structs s.decl :=
    List.mem_filterMap.2 ⟨m.field, hf, by simp [target]⟩
  refine Digraph.rank_lt_rank (StructTable.mem_names_of_get? s.declared) ?_
    (isRecursive_eq_false edge (by simpa using hr))
  show t.decl.name ∈ StructTable.successors r.cluster.structs s.decl.name
  simpa [StructTable.successors, s.declared] using edge

variable (r)

/-- The kept fields of a declared struct, written out. -/
def slotsOfStruct (s : DeclaredStruct r) : Slots :=
  -- `attach` keeps the membership that `depthBound_lt` needs.
  .ofList ((r.members (some s.decl.name) s.decl.fields).attach.map fun ⟨m, _mem⟩ =>
    (m.field, match _shape : m.shape with
      | .leaf l => .leaf l
      | .struct t => .record t.decl (slotsOfStruct t)))
termination_by depthBound s
decreasing_by exact depthBound_lt _mem _shape

def layout : Shape r → Layout
  | .leaf l => .leaf l
  | .struct t => .record t.decl (r.slotsOfStruct t)

/-- The kept fields among those of `owner`, written out. -/
def slots (owner : Option String) (fields : List Field) : Slots :=
  .ofList ((r.members owner fields).map fun m => (m.field, r.layout m.shape))

theorem slotsOfStruct_eq (s : DeclaredStruct r) :
    r.slotsOfStruct s = r.slots (some s.decl.name) s.decl.fields := by
  rw [slotsOfStruct, slots]
  congr 1
  conv => rhs; rw [← List.attach_map_subtype_val (r.members _ _), List.map_map]
  refine List.map_congr_left fun ⟨m, _⟩ _ => ?_
  simp only [Function.comp, Prod.mk.injEq, true_and]
  split <;> simp_all [layout]

end Resolved
end ClusterCodec

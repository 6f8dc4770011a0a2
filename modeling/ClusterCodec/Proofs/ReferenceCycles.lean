import ClusterCodec.Resolve.Resolved
import Mathlib.Logic.Relation
import Mathlib.Data.List.Flatten
import Mathlib.Tactic.SplitIfs

/-!
# ReferenceCycles — which references between structs are recursive

- `Digraph.Search`, `Digraph.turn`: a depth-first search for one node, turn by turn.
- `Digraph.searchWithin`: the search within a budget of turns; `exists_searchWithin_eq` says that one
  turn for each edge and two more are enough, and what the answer is.
- `Field.RefersTo`, `StructTable.Refers`: a field, or a declared struct, names a struct.
- `isRecursive_iff_returns`: a reference is recursive iff it leads back to the struct it starts from,
  and the search for that ends on every graph.
-/

namespace ClusterCodec
namespace Digraph

/-! ## Edges -/

section Edges

variable (g : Digraph)

/-- An edge that starts at a node. -/
def Follows (a b : String) : Prop :=
  a ∈ g.nodes ∧ b ∈ g.next a

/-- The edges that start at the listed nodes, by their ends. -/
def edgesFrom (nodes : List String) : List String :=
  nodes.flatMap g.next

def edgeCount : Nat :=
  (g.edgesFrom g.nodes).length

variable {g}

theorem path_iff {a b : String} (node : a ∈ g.nodes) :
    g.Path a b ↔ Relation.ReflTransGen g.Follows a b := by
  constructor
  · intro path
    induction path with
    | refl a =>
        exact .refl
    | step edge _ ih =>
        exact .head ⟨node, edge⟩ (ih (g.next_mem edge))
  · intro path
    induction path using Relation.ReflTransGen.head_induction_on with
    | refl =>
        exact .refl b
    | head edge _ ih =>
        exact .step edge.2 (ih (g.next_mem edge.2))

end Edges

/-! ## The search, turn by turn -/

/-- A search under way. -/
structure Search where
  /-- The names that are still to be looked at, the next one first. -/
  stack : List String
  visited : List String

/-- What one turn leads to. -/
inductive Turn where
  | answer (found : Bool)
  | go (rest : Search)

variable (g : Digraph) (target : String)

/-- The successors of a node; other names have none. -/
def successors (a : String) : List String :=
  if a ∈ g.nodes then g.next a else []

/-- Takes the next name from the stack. -/
def turn (s : Search) : Turn :=
  match s.stack with
  | [] => .answer false
  | a :: rest =>
    if a = target then .answer true
    else if a ∈ s.visited then .go { s with stack := rest }
    -- Successors are pushed in order, so the last one comes to the top.
    else .go ⟨(g.successors a).reverse ++ rest, a :: s.visited⟩

/-- The answer of the search, unless it takes more turns than the budget. -/
def searchWithin : Nat → Search → Option Bool
  | 0, _ => none
  | budget + 1, s =>
    match g.turn target s with
    | .answer found => some found
    | .go rest => searchWithin budget rest

variable {g target} {s t : Search}

theorem mem_successors_iff {a b : String} : b ∈ g.successors a ↔ g.Follows a b := by
  unfold successors Follows
  split
  · next node =>
      exact (and_iff_right node).symm
  · next other =>
      simp [other]

/-- Everything that one turn can do. -/
theorem turn_cases (g : Digraph) (target : String) (s : Search) :
    (s.stack = [] ∧ g.turn target s = .answer false) ∨
      (∃ rest, s.stack = target :: rest ∧ g.turn target s = .answer true) ∨
      (∃ a rest, s.stack = a :: rest ∧ a ∈ s.visited ∧ g.turn target s = .go ⟨rest, s.visited⟩) ∨
      ∃ a rest, s.stack = a :: rest ∧ a ≠ target ∧ a ∉ s.visited ∧
        g.turn target s = .go ⟨(g.successors a).reverse ++ rest, a :: s.visited⟩ := by
  unfold turn
  cases stack : s.stack with
  | nil =>
      exact .inl ⟨rfl, rfl⟩
  | cons a rest =>
      by_cases found : a = target
      · subst found
        exact .inr (.inl ⟨rest, rfl, if_pos rfl⟩)
      · by_cases seen : a ∈ s.visited
        · refine .inr (.inr (.inl ⟨a, rest, rfl, seen, ?_⟩))
          exact (if_neg found).trans (if_pos seen)
        · refine .inr (.inr (.inr ⟨a, rest, rfl, found, seen, ?_⟩))
          exact (if_neg found).trans (if_neg seen)

/-! ## It ends -/

/-- The names on the stack, and those that the unvisited nodes will put there. -/
def pending (g : Digraph) (s : Search) : Nat :=
  s.stack.length + (g.edgesFrom (g.nodes.filter (· ∉ s.visited))).length

/-- A visit takes the edges of the node out of the count. -/
theorem edgesFrom_visit_le {a : String} {visited : List String} (node : a ∈ g.nodes)
    (fresh : a ∉ visited) :
    (g.next a).length + (g.edgesFrom (g.nodes.filter (· ∉ a :: visited))).length ≤
      (g.edgesFrom (g.nodes.filter (· ∉ visited))).length := by
  have unvisited : a ∈ g.nodes.filter (· ∉ visited) := by
    simpa using ⟨node, fresh⟩
  rcases List.append_of_mem unvisited with ⟨front, back, split⟩
  -- Where the node is listed more than once its edges go as often, so this is no equation.
  have later : (g.nodes.filter (· ∉ a :: visited)).Sublist (front ++ back) := by
    have again : g.nodes.filter (· ∉ a :: visited) =
        (g.nodes.filter (· ∉ visited)).filter (· ≠ a) := by
      rw [List.filter_filter]
      exact List.filter_congr fun b _ => by simp
    rw [again, split, List.filter_append, List.filter_cons_of_neg (by simp)]
    exact List.filter_sublist.append List.filter_sublist
  have fewer := (later.flatMap g.next).length_le
  simp only [List.flatMap_append, List.length_append] at fewer
  simp only [edgesFrom, split, List.flatMap_append, List.flatMap_cons, List.length_append]
  omega

/-- Every turn that gives no answer leaves less to do. -/
theorem pending_lt (h : g.turn target s = .go t) : g.pending t < g.pending s := by
  rcases turn_cases g target s with
    ⟨-, ends⟩ | ⟨_, -, ends⟩ | ⟨a, rest, stack, -, goes⟩ | ⟨a, rest, stack, -, fresh, goes⟩
  · rw [ends] at h
    cases h
  · rw [ends] at h
    cases h
  · rw [goes] at h
    cases h
    simp only [pending, stack, List.length_cons]
    omega
  · rw [goes] at h
    cases h
    simp only [pending, stack, List.length_append, List.length_reverse, List.length_cons]
    by_cases node : a ∈ g.nodes
    · have visit := edgesFrom_visit_le node fresh
      rw [successors, if_pos node]
      omega
    · -- A name that is no node has no edges, and no node is visited with it.
      have same : g.nodes.filter (· ∉ a :: s.visited) = g.nodes.filter (· ∉ s.visited) := by
        refine List.filter_congr fun b listed => ?_
        have other : b ≠ a := fun same => node (same ▸ listed)
        simp [other]
      rw [successors, if_neg node, same, List.length_nil]
      omega

/-! ## Its answer is right -/

/-- What every turn of a search from `start` keeps. -/
structure Search.Sound (g : Digraph) (start target : String) (s : Search) : Prop where
  begun : start ∈ s.visited ∨ start ∈ s.stack
  reached : ∀ a ∈ s.stack, Relation.ReflTransGen g.Follows start a
  missed : target ∉ s.visited
  closed : ∀ a ∈ s.visited, ∀ b, g.Follows a b → b ∈ s.visited ∨ b ∈ s.stack

variable {start : String}

theorem sound_start : Search.Sound g start target ⟨[start], []⟩ where
  begun := .inr (List.mem_singleton_self start)
  reached := by
    intro a listed
    rw [List.mem_singleton.1 listed]
  missed := List.not_mem_nil
  closed := by
    intro a listed
    cases listed

/-- A name that was visited before may leave the stack. -/
theorem Search.Sound.drop {a : String} {rest : List String} (sound : s.Sound g start target)
    (stack : s.stack = a :: rest) (seen : a ∈ s.visited) :
    Search.Sound g start target ⟨rest, s.visited⟩ := by
  have moved {b : String} : b ∈ s.visited ∨ b ∈ s.stack → b ∈ s.visited ∨ b ∈ rest := by
    rw [stack, List.mem_cons]
    rintro (known | rfl | listed)
    · exact .inl known
    · exact .inl seen
    · exact .inr listed
  refine ⟨moved sound.begun, ?_, sound.missed, ?_⟩
  · intro b listed
    apply sound.reached
    rw [stack]
    exact .tail a listed
  · intro b known c edge
    exact moved (sound.closed b known c edge)

/-- Another name than the target is visited, and what follows it comes on the stack. -/
theorem Search.Sound.visit {a : String} {rest : List String} (sound : s.Sound g start target)
    (stack : s.stack = a :: rest) (other : a ≠ target) :
    Search.Sound g start target ⟨(g.successors a).reverse ++ rest, a :: s.visited⟩ := by
  have moved {b : String} : b ∈ s.visited ∨ b ∈ s.stack →
      b ∈ a :: s.visited ∨ b ∈ (g.successors a).reverse ++ rest := by
    rw [stack, List.mem_cons]
    rintro (known | rfl | listed)
    · exact .inl (.tail a known)
    · exact .inl (.head _)
    · exact .inr (List.mem_append_right _ listed)
  have reached : Relation.ReflTransGen g.Follows start a := by
    apply sound.reached
    rw [stack]
    exact .head rest
  refine ⟨moved sound.begun, ?_, ?_, ?_⟩
  · intro b listed
    rcases List.mem_append.1 listed with pushed | listed
    · exact reached.tail (mem_successors_iff.1 (List.mem_reverse.1 pushed))
    · apply sound.reached
      rw [stack]
      exact .tail a listed
  · intro listed
    rcases List.mem_cons.1 listed with same | known
    · exact other same.symm
    · exact sound.missed known
  · -- An edge from the visited name leads to the stack, and the others lead where they led before.
    intro b known c edge
    rcases List.mem_cons.1 known with rfl | known
    · have pushed : c ∈ (g.successors b).reverse :=
        List.mem_reverse.2 (mem_successors_iff.2 edge)
      exact .inr (List.mem_append_left rest pushed)
    · exact moved (sound.closed b known c edge)

theorem sound_turn (sound : s.Sound g start target) (h : g.turn target s = .go t) :
    t.Sound g start target := by
  rcases turn_cases g target s with
    ⟨-, ends⟩ | ⟨_, -, ends⟩ | ⟨a, rest, stack, seen, goes⟩ | ⟨a, rest, stack, other, -, goes⟩
  · rw [ends] at h
    cases h
  · rw [ends] at h
    cases h
  · rw [goes] at h
    cases h
    exact sound.drop stack seen
  · rw [goes] at h
    cases h
    exact sound.visit stack other

theorem sound_answer {found : Bool} (sound : s.Sound g start target)
    (h : g.turn target s = .answer found) :
    found = true ↔ Relation.ReflTransGen g.Follows start target := by
  rcases turn_cases g target s with
    ⟨stack, ends⟩ | ⟨rest, stack, ends⟩ | ⟨_, _, -, -, goes⟩ | ⟨_, _, -, -, -, goes⟩
  · rw [ends] at h
    cases h
    -- With an empty stack the visited names are closed, and the target is none of them.
    have closed {a : String} (path : Relation.ReflTransGen g.Follows start a) :
        a ∈ s.visited := by
      induction path with
      | refl =>
          refine sound.begun.resolve_right ?_
          rw [stack]
          exact List.not_mem_nil
      | tail _ edge ih =>
          refine (sound.closed _ ih _ edge).resolve_right ?_
          rw [stack]
          exact List.not_mem_nil
    constructor
    · intro impossible
      cases impossible
    · intro path
      exact absurd (closed path) sound.missed
  · rw [ends] at h
    cases h
    refine iff_of_true rfl (sound.reached target ?_)
    rw [stack]
    exact .head rest
  · rw [goes] at h
    cases h
  · rw [goes] at h
    cases h

theorem exists_answer {budget : Nat} (sound : s.Sound g start target)
    (enough : g.pending s < budget) :
    ∃ found, g.searchWithin target budget s = some found ∧
      (found = true ↔ Relation.ReflTransGen g.Follows start target) := by
  induction budget generalizing s with
  | zero =>
      exact absurd enough (Nat.not_lt_zero _)
  | succ budget ih =>
      cases h : g.turn target s with
      | answer found =>
          refine ⟨found, ?_, sound_answer sound h⟩
          rw [searchWithin, h]
      | go t =>
          have less : g.pending t < budget :=
            calc
              g.pending t < g.pending s := pending_lt h
              _ ≤ budget := Nat.lt_succ_iff.1 enough
          rcases ih (sound_turn sound h) less with ⟨found, answer, right⟩
          refine ⟨found, ?_, right⟩
          rw [searchWithin, h]
          exact answer

/-- On every graph, with cycles or without, one turn for each edge and two more are enough to learn
whether a name leads to another. -/
theorem exists_searchWithin_eq (g : Digraph) (start target : String) {budget : Nat}
    (enough : g.edgeCount + 2 ≤ budget) :
    ∃ found, g.searchWithin target budget ⟨[start], []⟩ = some found ∧
      (found = true ↔ Relation.ReflTransGen g.Follows start target) := by
  have begun : g.pending ⟨[start], []⟩ = g.edgeCount + 1 := by
    have unvisited : g.nodes.filter (· ∉ ([] : List String)) = g.nodes :=
      List.filter_eq_self.2 fun _ _ => by simp
    rw [pending, unvisited, List.length_singleton, Nat.add_comm, edgeCount]
  apply exists_answer sound_start
  omega

end Digraph

/-! ## References -/

/-- The field has the struct as its type or as the type of its elements. -/
def Field.RefersTo (f : Field) (name : String) : Prop :=
  hasSuffix structSuffix name = true ∧
    (f.typeName = name ∨ f.typeName = listType ∧ f.entryType = some name)

/-- Of two suffixes of one name, the shorter is a suffix of the longer. -/
theorem not_hasSuffix_of_hasSuffix {shorter longer name : String}
    (apart : ¬ shorter.toList <:+ longer.toList)
    (le : shorter.toList.length ≤ longer.toList.length) (h : hasSuffix longer name = true) :
    ¬ hasSuffix shorter name = true := by
  intro other
  apply apart
  exact List.suffix_of_suffix_length_le (List.isSuffixOf_iff_suffix.1 other)
    (List.isSuffixOf_iff_suffix.1 h) le

theorem ne_listType_of_hasSuffix {name : String} (h : hasSuffix structSuffix name = true) :
    name ≠ listType := by
  rintro rfl
  revert h
  decide

/-- A type name refers to a struct iff it ends like one. -/
theorem TypeRef.structName?_classify {typeName name : String} :
    (classify typeName).structName? = some name ↔
      typeName = name ∧ hasSuffix structSuffix name = true := by
  constructor
  · intro h
    unfold classify at h
    split_ifs at h with list enum bitmap ends
    · cases h
    · cases h
    · cases h
    · cases h
      exact ⟨rfl, ends⟩
    · cases h
  · rintro ⟨rfl, ends⟩
    -- No name has two of the suffixes, so the checks that come before this one fail.
    have noEnum : ¬ hasSuffix enumSuffix typeName = true :=
      not_hasSuffix_of_hasSuffix (by decide) (by decide) ends
    have noBitmap : ¬ hasSuffix bitmapSuffix typeName = true :=
      not_hasSuffix_of_hasSuffix (by decide) (by decide) ends
    rw [classify, if_neg (ne_listType_of_hasSuffix ends), if_neg noEnum, if_neg noBitmap,
      if_pos ends]
    rfl

theorem Field.structName?_eq_some_iff {f : Field} {name : String} :
    f.structName? = some name ↔ f.RefersTo name := by
  unfold structName? typeRef isList RefersTo
  -- A list refers by the type of its entries, and any other field by its own type.
  by_cases list : f.typeName = listType
  · rw [if_pos (beq_iff_eq.2 list)]
    cases entry : f.entryType with
    | none =>
        simp only [Option.map_none, TypeRef.structName?, list]
        constructor
        · intro impossible
          cases impossible
        · rintro ⟨ends, same | ⟨-, impossible⟩⟩
          · exact absurd same.symm (ne_listType_of_hasSuffix ends)
          · cases impossible
    | some typeName =>
        simp only [Option.map_some, TypeRef.structName?, list, Option.some.injEq]
        rw [TypeRef.structName?_classify]
        constructor
        · rintro ⟨same, ends⟩
          exact ⟨ends, .inr ⟨trivial, same⟩⟩
        · rintro ⟨ends, same | ⟨-, same⟩⟩
          · exact absurd same.symm (ne_listType_of_hasSuffix ends)
          · exact ⟨same, ends⟩
  · rw [if_neg (mt beq_iff_eq.1 list), TypeRef.structName?_classify]
    constructor
    · rintro ⟨same, ends⟩
      exact ⟨ends, .inl same⟩
    · rintro ⟨ends, same | ⟨isList, -⟩⟩
      · exact ⟨same, ends⟩
      · exact absurd isList list

namespace StructTable

/-- A declared struct has a field that refers to a name, which may be undeclared. -/
def Refers (structs : StructTable) (owner name : String) : Prop :=
  ∃ s, structs.get? owner = some s ∧ ∃ f ∈ s.fields, f.RefersTo name

variable {structs : StructTable}

theorem mem_targets_iff {s : StructDecl} {name : String} :
    name ∈ structs.targets s ↔ name ∈ structs.names ∧ ∃ f ∈ s.fields, f.RefersTo name := by
  rw [targets, List.mem_filterMap]
  constructor
  · rintro ⟨f, listed, found⟩
    rcases Option.map_eq_some_iff.1 found with ⟨t, target, rfl⟩
    rcases Option.bind_eq_some_iff.1 target with ⟨n, refers, known⟩
    have named : t.name = n := (SymbolTable.get?_eq_some known).2
    refine ⟨mem_names_of_get? known, f, listed, Field.structName?_eq_some_iff.1 ?_⟩
    rw [named, refers]
  · rintro ⟨declared, f, listed, refers⟩
    rcases List.mem_map.1 declared with ⟨t, known, rfl⟩
    refine ⟨f, listed, Option.map_eq_some_iff.2 ⟨t, Option.bind_eq_some_iff.2 ⟨t.name, ?_, ?_⟩, rfl⟩⟩
    · exact Field.structName?_eq_some_iff.2 refers
    · exact SymbolTable.get?_eq_some_iff.2 ⟨known, rfl⟩

theorem mem_names_of_refers {a b : String} (h : structs.Refers a b) : a ∈ structs.names := by
  rcases h with ⟨s, known, -⟩
  have named : s.name = a := (SymbolTable.get?_eq_some known).2
  exact named ▸ mem_names_of_get? known

theorem follows_graph_iff {a b : String} :
    structs.graph.Follows a b ↔ structs.Refers a b ∧ b ∈ structs.names := by
  constructor
  · rintro ⟨-, edge⟩
    change b ∈ structs.successors a at edge
    unfold successors at edge
    cases known : structs.get? a with
    | none =>
        rw [known] at edge
        cases edge
    | some s =>
        rw [known] at edge
        rcases mem_targets_iff.1 edge with ⟨declared, refers⟩
        exact ⟨⟨s, known, refers⟩, declared⟩
  · rintro ⟨edge, declared⟩
    refine ⟨mem_names_of_refers edge, ?_⟩
    rcases edge with ⟨s, known, refers⟩
    change b ∈ structs.successors a
    rw [successors, known]
    exact mem_targets_iff.2 ⟨declared, refers⟩

/-- Every name on the way is that of a struct with a reference, so only the last one has to be
declared. -/
theorem path_graph_iff {a b : String} (target : a ∈ structs.names) (owner : b ∈ structs.names) :
    structs.graph.Path a b ↔ a = b ∨ Relation.TransGen structs.Refers a b := by
  rw [Digraph.path_iff target, Relation.reflTransGen_iff_eq_or_transGen, eq_comm]
  refine or_congr_right ⟨?_, ?_⟩
  · intro path
    exact Relation.TransGen.mono (fun _ _ edge => (follows_graph_iff.1 edge).1) _ _ path
  · intro path
    induction path using Relation.TransGen.head_induction_on with
    | single edge =>
        exact .single (follows_graph_iff.2 ⟨edge, owner⟩)
    | head edge rest ih =>
        rcases Relation.TransGen.head'_iff.1 rest with ⟨_, next, -⟩
        have declared := mem_names_of_refers next
        exact .head (follows_graph_iff.2 ⟨edge, declared⟩) (ih declared)

end StructTable

/-! ## Recursive references -/

namespace Resolved

/-- A reference is recursive iff both structs are declared, a field of the owner refers to the
target, and the target is the owner or leads back to it.  The search behind it ends on every graph
and finds whether one name leads to another. -/
theorem isRecursive_iff_returns (r : Resolved) (owner target : String) :
    (r.isRecursive owner target = true ↔
      owner ∈ r.cluster.structs.names ∧ target ∈ r.cluster.structs.names ∧
        StructTable.Refers r.cluster.structs owner target ∧
          (target = owner ∨
            Relation.TransGen (StructTable.Refers r.cluster.structs) target owner)) ∧
      ∀ (g : Digraph) (a b : String) (budget : Nat), g.edgeCount + 2 ≤ budget →
        ∃ found, g.searchWithin b budget ⟨[a], []⟩ = some found ∧
          (found = true ↔ Relation.ReflTransGen g.Follows a b) ∧
          (a ∈ g.nodes → g.reaches a b = found) := by
  refine ⟨?_, ?_⟩
  · rw [isRecursive, decide_eq_true_iff, r.edges_eq, StructTable.mem_recursiveEdges_iff]
    constructor
    · rintro ⟨s, listed, rfl, edge, closes⟩
      rcases StructTable.mem_targets_iff.1 edge with ⟨declared, refers⟩
      have known : r.cluster.structs.get? s.name = some s :=
        SymbolTable.get?_eq_some_iff.2 ⟨listed, rfl⟩
      have owner := StructTable.mem_names_of_get? known
      refine ⟨owner, declared, ⟨s, known, refers⟩, ?_⟩
      exact (StructTable.path_graph_iff declared owner).1 ((Digraph.reaches_iff declared).1 closes)
    · rintro ⟨owned, declared, ⟨s, known, refers⟩, returns⟩
      rcases SymbolTable.get?_eq_some known with ⟨listed, named⟩
      refine ⟨s, listed, named, StructTable.mem_targets_iff.2 ⟨declared, refers⟩, ?_⟩
      exact (Digraph.reaches_iff declared).2 ((StructTable.path_graph_iff declared owned).2 returns)
  · intro g a b budget enough
    rcases g.exists_searchWithin_eq a b enough with ⟨found, answer, right⟩
    refine ⟨found, answer, right, ?_⟩
    intro node
    rw [Bool.eq_iff_iff, right, Digraph.reaches_iff node, Digraph.path_iff node]

/-- A ring of three structs, one link of it a list; one of them refers to itself as well, and one to
a struct that is not declared. -/
def rooms : Cluster :=
  { id := 7
    idText := "0x0007"
    name := "Rooms"
    structs := .ofList [
      { name := "HouseStruct"
        fields := [
          { id := 0, name := "Rooms", typeName := "list", entryType := some "RoomStruct" },
          { id := 1, name := "Owner", typeName := "PersonStruct" }] },
      { name := "RoomStruct"
        fields := [
          { id := 0, name := "Next", typeName := "RoomStruct" },
          { id := 1, name := "Door", typeName := "DoorStruct" }] },
      { name := "DoorStruct"
        fields := [{ id := 0, name := "House", typeName := "HouseStruct" }] }] }

theorem isRecursive_iff_returns_rooms :
    (ofCluster rooms).isRecursive "HouseStruct" "RoomStruct" = true ∧
      (ofCluster rooms).isRecursive "HouseStruct" "PersonStruct" = false ∧
      (StructTable.graph rooms.structs).edgeCount + 2 ≤ 6 ∧
      (StructTable.graph rooms.structs).reaches "RoomStruct" "HouseStruct" = true := by
  have link : StructTable.Refers rooms.structs "HouseStruct" "RoomStruct" :=
    ⟨_, rfl, _, .head _, by decide, .inr ⟨rfl, rfl⟩⟩
  have toDoor : StructTable.Refers rooms.structs "RoomStruct" "DoorStruct" :=
    ⟨_, rfl, _, .tail _ (.head _), by decide, .inl rfl⟩
  have toHouse : StructTable.Refers rooms.structs "DoorStruct" "HouseStruct" :=
    ⟨_, rfl, _, .head _, by decide, .inl rfl⟩
  have back : Relation.TransGen (StructTable.Refers rooms.structs) "RoomStruct" "HouseStruct" :=
    .head toDoor (.single toHouse)
  have ring := (isRecursive_iff_returns (ofCluster rooms) "HouseStruct" "RoomStruct").1.2
    ⟨by decide, by decide, link, .inr back⟩
  have undeclared : ¬ (ofCluster rooms).isRecursive "HouseStruct" "PersonStruct" = true := by
    intro recursive
    have declared := ((isRecursive_iff_returns (ofCluster rooms) _ _).1.1 recursive).2.1
    revert declared
    decide
  have enough : (StructTable.graph rooms.structs).edgeCount + 2 ≤ 6 := by
    decide
  rcases (isRecursive_iff_returns (ofCluster rooms) "HouseStruct" "RoomStruct").2
    (StructTable.graph rooms.structs) "RoomStruct" "HouseStruct" 6 enough with
    ⟨found, answer, -, same⟩
  have node : "RoomStruct" ∈ (StructTable.graph rooms.structs).nodes := by
    decide
  have searched : (StructTable.graph rooms.structs).searchWithin "HouseStruct" 6
      ⟨["RoomStruct"], []⟩ = some true := by
    decide
  rw [searched] at answer
  refine ⟨ring, Bool.eq_false_iff.2 undeclared, enough, ?_⟩
  rw [same node]
  exact (Option.some.inj answer).symm

end Resolved
end ClusterCodec

/-!
# Digraph — reachability in a finite directed graph

- `Digraph`: nodes, and the successors of each.
- `Path g a b`: `b` is reached from `a` by zero or more edges.
- `reachable`, `reaches`: a worklist search; `mem_reachable_iff` says that it finds exactly what
  paths reach.
- `rank`: how many nodes are reached. `rank_lt_rank` says that it falls along every edge that lies on
  no cycle, so that following only such edges comes to an end.
-/

namespace ClusterCodec

structure Digraph where
  nodes : List String
  next : String → List String
  next_mem : ∀ {a b : String}, b ∈ next a → b ∈ nodes

namespace Digraph

variable (g : Digraph)

/-- `b` is reached from `a` by zero or more edges. -/
inductive Path : String → String → Prop where
  | refl (a : String) : Path a a
  | step {a b c : String} : b ∈ g.next a → Path b c → Path a c

variable {g}

theorem Path.trans {a b c : String} (h : g.Path a b) (k : g.Path b c) : g.Path a c := by
  induction h with
  | refl => exact k
  | step e _ ih => exact .step e (ih k)

variable (g)

/-! ## Search -/

theorem countP_lt_countP {l : List String} {p q : String → Bool} {a : String} (mem : a ∈ l)
    (le : ∀ x, p x = true → q x = true) (hp : p a = false) (hq : q a = true) :
    l.countP p < l.countP q := by
  induction l with
  | nil => simp at mem
  | cons b l ih =>
    have tail : l.countP p ≤ l.countP q := List.countP_mono_left fun x _ => le x
    simp only [List.countP_cons]
    rcases List.mem_cons.1 mem with rfl | mem
    · simp only [hp, hq, if_true]
      simp only [Bool.false_eq_true, if_false]
      omega
    · have := ih mem
      have head : (if p b = true then 1 else 0) ≤ if q b = true then 1 else 0 := by
        by_cases hb : p b = true
        · simp [hb, le b hb]
        · simp [hb]
      omega

theorem countP_unseen_lt {l seen : List String} {a : String} (mem : a ∈ l) (fresh : a ∉ seen) :
    l.countP (· ∉ a :: seen) < l.countP (· ∉ seen) :=
  countP_lt_countP mem (fun x => by simp) (by simp) (by simpa using fresh)

/-- Takes nodes from a stack until it is empty; returns the visited ones. -/
def explore (stack visited : List String) : List String :=
  match stack with
  | [] => visited
  | a :: rest =>
    -- Each step visits a new node, of which there are finitely many, or shortens the stack.
    if _seen : a ∈ visited then explore rest visited
    else if _known : a ∈ g.nodes then explore (g.next a ++ rest) (a :: visited)
    else explore rest visited
termination_by (g.nodes.countP (· ∉ visited), stack.length)
decreasing_by
  · exact Prod.Lex.right _ (by simp)
  · exact Prod.Lex.left _ _ (countP_unseen_lt _known _seen)
  · exact Prod.Lex.right _ (by simp)

/-- The nodes that are reached from `a`, with `a` itself. -/
def reachable (a : String) : List String :=
  g.explore [a] []

def reaches (a b : String) : Bool :=
  b ∈ g.reachable a

variable {g}

theorem path_of_mem_explore {stack visited : List String} {b : String}
    (h : b ∈ g.explore stack visited) : b ∈ visited ∨ ∃ a ∈ stack, g.Path a b := by
  fun_induction explore g stack visited with
  | case1 => exact .inl h
  | case2 visited a rest seen ih =>
    rcases ih h with h | ⟨c, hc, hp⟩
    · exact .inl h
    · exact .inr ⟨c, .tail _ hc, hp⟩
  | case3 visited a rest fresh known ih =>
    rcases ih h with h | ⟨c, hc, hp⟩
    · rcases List.mem_cons.1 h with rfl | h
      · exact .inr ⟨b, .head _, .refl b⟩
      · exact .inl h
    · rcases List.mem_append.1 hc with hc | hc
      · exact .inr ⟨a, .head _, .step hc hp⟩
      · exact .inr ⟨c, .tail _ hc, hp⟩
  | case4 visited a rest fresh unknown ih =>
    rcases ih h with h | ⟨c, hc, hp⟩
    · exact .inl h
    · exact .inr ⟨c, .tail _ hc, hp⟩

theorem visited_subset_explore {stack visited : List String} {b : String} (h : b ∈ visited) :
    b ∈ g.explore stack visited := by
  fun_induction explore g stack visited with
  | case1 => exact h
  | case2 visited a rest seen ih => exact ih h
  | case3 visited a rest fresh known ih => exact ih (.tail _ h)
  | case4 visited a rest fresh unknown ih => exact ih h

theorem stack_subset_explore {stack visited : List String} {b : String} (h : b ∈ stack)
    (node : b ∈ g.nodes) : b ∈ g.explore stack visited := by
  fun_induction explore g stack visited with
  | case1 => simp at h
  | case2 visited a rest seen ih =>
    rcases List.mem_cons.1 h with rfl | h
    · exact visited_subset_explore seen
    · exact ih h
  | case3 visited a rest fresh known ih =>
    rcases List.mem_cons.1 h with rfl | h
    · exact visited_subset_explore (.head _)
    · exact ih (List.mem_append_right _ h)
  | case4 visited a rest fresh unknown ih =>
    rcases List.mem_cons.1 h with rfl | h
    · exact absurd node unknown
    · exact ih h

theorem explore_closed {stack visited : List String} {b c : String}
    (h : b ∈ g.explore stack visited) (e : c ∈ g.next b) :
    b ∈ visited ∨ c ∈ g.explore stack visited := by
  fun_induction explore g stack visited with
  | case1 => exact .inl h
  | case2 visited a rest seen ih => exact ih h
  | case3 visited a rest fresh known ih =>
    rcases ih h with hb | hc
    · rcases List.mem_cons.1 hb with rfl | hb
      · exact .inr (stack_subset_explore (List.mem_append_left _ e) (g.next_mem e))
      · exact .inl hb
    · exact .inr hc
  | case4 visited a rest fresh unknown ih => exact ih h

theorem mem_reachable_iff {a b : String} (node : a ∈ g.nodes) :
    b ∈ g.reachable a ↔ g.Path a b := by
  constructor
  · intro h
    rcases path_of_mem_explore h with h | ⟨c, hc, hp⟩
    · simp at h
    · simp only [List.mem_singleton] at hc
      exact hc ▸ hp
  · have closed : ∀ {c d : String}, g.Path c d → c ∈ g.reachable a → d ∈ g.reachable a := by
      intro c d h
      induction h with
      | refl => exact id
      | step e _ ih =>
        intro hc
        rcases explore_closed hc e with h | h
        · simp at h
        · exact ih h
    exact fun h => closed h (stack_subset_explore (List.mem_singleton.2 rfl) node)

theorem reaches_iff {a b : String} (node : a ∈ g.nodes) : g.reaches a b = true ↔ g.Path a b := by
  simp [reaches, mem_reachable_iff node]

variable (g)

/-! ## Rank -/

/-- How many nodes are reached. -/
def rank (a : String) : Nat :=
  g.nodes.countP (g.reaches a)

variable {g}

/-- An edge that lies on no cycle leads to a node of lower rank. -/
theorem rank_lt_rank {a b : String} (node : a ∈ g.nodes) (edge : b ∈ g.next a)
    (noCycle : g.reaches b a = false) : g.rank b < g.rank a := by
  have nodeB := g.next_mem edge
  refine countP_lt_countP node (fun x hx => ?_) noCycle ((reaches_iff node).2 (.refl a))
  exact (reaches_iff node).2 (.step edge ((reaches_iff nodeB).1 hx))

end Digraph
end ClusterCodec

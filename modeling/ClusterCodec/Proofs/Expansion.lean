import ClusterCodec.Emit.Decode
import ClusterCodec.Emit.Encode
import ClusterCodec.Proofs.KeptFields
import Mathlib.Data.List.Perm.Subperm

/-!
# Expansion — nested structs written out in place

Decoders and encoders write out the fields of a nested struct where it is used.  This file shows
that doing so comes to an end for every table of structs, cyclic or not:

- `Resolved.Nests`: one declared struct keeps a field that holds another; `not_transGen_nests` says
  that the relation has no cycle.
- `Resolved.Chain`: structs that are written out inside each other below a list of fields.
- `Resolved.decodeFields?`, `Resolved.encodeFields?`: the expansion by name, which follows the
  fields of every nested struct and gives up where structs nest deeper than a budget.
- `expansion_terminates`: the number of declared structs is always budget enough.
-/

namespace ClusterCodec
namespace Resolved

variable {r : Resolved}

/-! ## Nesting has no cycle -/

/-- The struct `s` keeps a field whose value, or whose elements, are of the struct `t`. -/
def Nests (r : Resolved) (s t : DeclaredStruct r) : Prop :=
  ∃ m ∈ r.members (some s.decl.name) s.decl.fields, m.shape = .struct t

theorem Nests.depthBound_lt {s t : DeclaredStruct r} (h : r.Nests s t) :
    depthBound t < depthBound s := by
  rcases h with ⟨m, hm, ht⟩
  exact Resolved.depthBound_lt hm ht

theorem depthBound_lt_of_transGen {s t : DeclaredStruct r} (h : Relation.TransGen r.Nests s t) :
    depthBound t < depthBound s := by
  induction h with
  | single h =>
      exact h.depthBound_lt
  | tail _ h ih =>
      exact Nat.lt_trans h.depthBound_lt ih

theorem not_transGen_nests (s : DeclaredStruct r) : ¬ Relation.TransGen r.Nests s s := by
  intro h
  exact Nat.lt_irrefl _ (depthBound_lt_of_transGen h)

/-- What holds of a struct when it holds of all that it nests holds of every declared struct. -/
theorem nests_induction {P : DeclaredStruct r → Prop}
    (step : ∀ s, (∀ t, r.Nests s t → P t) → P s) (s : DeclaredStruct r) : P s := by
  -- The rank falls along every nesting, so nesting is well founded downwards.
  have wf : WellFounded fun t s : DeclaredStruct r => r.Nests s t :=
    Subrelation.wf Nests.depthBound_lt (measure depthBound).wf
  exact wf.induction s step

/-- A struct counts itself in its rank. -/
theorem depthBound_pos (s : DeclaredStruct r) : 0 < depthBound s := by
  have node : s.decl.name ∈ (StructTable.graph r.cluster.structs).nodes :=
    StructTable.mem_names_of_get? s.declared
  exact List.countP_pos_iff.2 ⟨s.decl.name, node, (Digraph.reaches_iff node).2 (.refl _)⟩

theorem depthBound_le_size (s : DeclaredStruct r) : depthBound s ≤ r.cluster.structs.size := by
  have h : depthBound s ≤ r.cluster.structs.names.length := List.countP_le_length
  simpa [SymbolTable.names, SymbolTable.size] using h

/-- What a budget gives for a struct when a smaller one gives it for all that the struct nests, it gives
for every struct whose rank it covers. -/
theorem budget_induction {P : Nat → DeclaredStruct r → Prop}
    (step : ∀ budget s, (∀ t, r.Nests s t → P budget t) → P (budget + 1) s) {budget : Nat}
    {s : DeclaredStruct r} (enough : depthBound s ≤ budget) : P budget s := by
  induction budget generalizing s with
  | zero =>
      exact absurd enough (Nat.not_le.2 (depthBound_pos s))
  | succ budget ih =>
      -- The budget falls by one, and the rank falls with it.
      refine step budget s fun t nests => ih (Nat.le_of_lt_succ ?_)
      calc
        depthBound t < depthBound s := nests.depthBound_lt
        _ ≤ budget + 1 := enough

/-! ## Chains of nested structs -/

/-- Structs that are written out inside each other below a list of fields, the outermost first. -/
inductive Chain (r : Resolved) : Option String → List Field → List (DeclaredStruct r) → Prop where
  | nil {owner : Option String} {fields : List Field} : Chain r owner fields []
  | cons {owner : Option String} {fields : List Field} {m : Member r} {t : DeclaredStruct r}
      {rest : List (DeclaredStruct r)} :
      m ∈ r.members owner fields → m.shape = .struct t →
        Chain r (some t.decl.name) t.decl.fields rest → Chain r owner fields (t :: rest)

namespace Chain

theorem depthBound_lt {chain : List (DeclaredStruct r)} :
    ∀ {s : DeclaredStruct r}, r.Chain (some s.decl.name) s.decl.fields chain →
      ∀ t ∈ chain, depthBound t < depthBound s := by
  induction chain with
  | nil =>
      intro s _ t ht
      cases ht
  | cons u rest ih =>
      intro s h t ht
      cases h with
      | cons hm hu hrest =>
          have head : depthBound u < depthBound s := Resolved.depthBound_lt hm hu
          rcases List.mem_cons.1 ht with rfl | ht
          · exact head
          · exact Nat.lt_trans (ih hrest t ht) head

theorem pairwise_depthBound {owner : Option String} {fields : List Field}
    {chain : List (DeclaredStruct r)} (h : r.Chain owner fields chain) :
    chain.Pairwise fun s t => depthBound t < depthBound s := by
  induction h with
  | nil =>
      exact List.Pairwise.nil
  | cons _ _ hrest ih =>
      exact List.Pairwise.cons (hrest.depthBound_lt) ih

theorem nodup_names {owner : Option String} {fields : List Field}
    {chain : List (DeclaredStruct r)} (h : r.Chain owner fields chain) :
    (chain.map (·.decl.name)).Nodup := by
  refine List.pairwise_map.2 (h.pairwise_depthBound.imp ?_)
  intro s t hlt hname
  -- The rank of a struct is a function of its name.
  have same : depthBound t = depthBound s := by
    simp only [depthBound, hname]
  exact Nat.ne_of_lt hlt same

theorem length_le_size {owner : Option String} {fields : List Field}
    {chain : List (DeclaredStruct r)} (h : r.Chain owner fields chain) :
    chain.length ≤ r.cluster.structs.size := by
  -- Distinct names, all of them declared: there are no more of them than declarations.
  have declared : chain.map (·.decl.name) ⊆ r.cluster.structs.names := by
    intro name hname
    rcases List.mem_map.1 hname with ⟨t, _, rfl⟩
    exact StructTable.mem_names_of_get? t.declared
  have le := (List.subperm_of_subset h.nodup_names declared).length_le
  simpa [SymbolTable.names, SymbolTable.size] using le

end Chain

/-! ## Decoders by name, within a budget

The expressions for a list of fields are those of its members; a nested struct is handed on to
`nested`.  `decodeStruct?` closes the recursion: it follows the fields of the struct with a budget
that is smaller by one.
-/

section Decoding

variable (nested : DeclaredStruct r → Place → Nat → Option Inits)

def decodeShape? (item : Place) (id : UInt8) (depth : Nat) : Shape r → Option Decode
  | .leaf l => some (.leaf l item id)
  | .struct t =>
    (nested t (.bound ⟨.nestedItem, depth⟩) (depth + 1)).map
      (.nested t.decl item id ⟨.nestedValue, depth⟩ ⟨.nestedItem, depth⟩)

def decodeElements? (depth : Nat) : Shape r → Option Elements
  | .leaf l => some (.leaf l ⟨.element, depth⟩)
  | .struct t =>
    (nested t (.bound ⟨.element, depth⟩) (depth + 1)).map (.records t.decl ⟨.element, depth⟩)

def decodeMember? (item : Place) (depth : Nat) (m : Member r) : Option Decode :=
  if m.field.isList then
    (decodeElements? nested depth m.shape).map (.list item m.field.id ⟨.list, depth⟩)
  else decodeShape? nested item m.field.id depth m.shape

def decodeMembers? (item : Place) (depth : Nat) : List (Member r) → Option Inits
  | [] => some .nil
  | m :: rest => do
    let value ← decodeMember? nested item depth m
    let inits ← decodeMembers? item depth rest
    return .cons m.ident value inits

/-- The expression that reads a member from an item. -/
def memberDecode (item : Place) (depth : Nat) (m : Member r) : Decode :=
  if m.field.isList then
    .list item m.field.id ⟨.list, depth⟩ ((r.layout m.shape).elements depth)
  else (r.layout m.shape).decode item m.field.id depth

/-- What `nested` gives for a struct are the initialisers of its layout. -/
def GivesInits (t : DeclaredStruct r) : Prop :=
  ∀ item depth, nested t item depth = some ((r.slotsOfStruct t).inits item depth)

variable {nested}

theorem decodeShape?_eq {shape : Shape r} (h : ∀ t, shape = .struct t → GivesInits nested t)
    (item : Place) (id : UInt8) (depth : Nat) :
    decodeShape? nested item id depth shape = some ((r.layout shape).decode item id depth) := by
  cases shape with
  | leaf l =>
      rfl
  | struct t =>
      simp [decodeShape?, h t rfl _ _, layout, Layout.decode]

theorem decodeElements?_eq {shape : Shape r} (h : ∀ t, shape = .struct t → GivesInits nested t)
    (depth : Nat) :
    decodeElements? nested depth shape = some ((r.layout shape).elements depth) := by
  cases shape with
  | leaf l =>
      rfl
  | struct t =>
      simp [decodeElements?, h t rfl _ _, layout, Layout.elements]

theorem decodeMember?_eq {m : Member r} (h : ∀ t, m.shape = .struct t → GivesInits nested t)
    (item : Place) (depth : Nat) :
    decodeMember? nested item depth m = some (memberDecode item depth m) := by
  unfold decodeMember? memberDecode
  split
  · simp [decodeElements?_eq h]
  · exact decodeShape?_eq h item m.field.id depth

theorem decodeMembers?_eq {members : List (Member r)}
    (h : ∀ m ∈ members, ∀ t, m.shape = .struct t → GivesInits nested t)
    (item : Place) (depth : Nat) :
    decodeMembers? nested item depth members =
      some ((Slots.ofList (members.map fun m => (m.field, r.layout m.shape))).inits item
        depth) := by
  induction members with
  | nil =>
      rfl
  | cons m rest ih =>
      have head := decodeMember?_eq (h m (.head _)) item depth
      have tail := ih fun m' hm' => h m' (.tail _ hm')
      simp [decodeMembers?, head, tail, memberDecode, Slots.ofList, Slots.inits, Member.ident]

end Decoding

def decodeStruct? (r : Resolved) : Nat → DeclaredStruct r → Place → Nat → Option Inits
  | 0, _, _, _ => none
  | budget + 1, t, item, depth =>
    decodeMembers? (r.decodeStruct? budget) item depth
      (r.members (some t.decl.name) t.decl.fields)

/-- The initialisers for the fields of `owner`, unless structs nest deeper than the budget. -/
def decodeFields? (r : Resolved) (budget : Nat) (owner : Option String) (fields : List Field)
    (item : Place) (depth : Nat) : Option Inits :=
  decodeMembers? (r.decodeStruct? budget) item depth (r.members owner fields)

theorem givesInits_decodeStruct? {budget : Nat} {t : DeclaredStruct r}
    (enough : depthBound t ≤ budget) : GivesInits (r.decodeStruct? budget) t := by
  refine budget_induction (P := fun budget => GivesInits (r.decodeStruct? budget)) ?_ enough
  intro budget s nested item depth
  rw [decodeStruct?, slotsOfStruct_eq, slots]
  exact decodeMembers?_eq (fun m hm u hu => nested u ⟨m, hm, hu⟩) item depth

theorem givesInits_of_size_le {budget : Nat} (enough : r.cluster.structs.size ≤ budget)
    (t : DeclaredStruct r) : GivesInits (r.decodeStruct? budget) t :=
  givesInits_decodeStruct? (Nat.le_trans (depthBound_le_size t) enough)

/-! ## Encoders by name, within a budget -/

section Encoding

variable (nested : DeclaredStruct r → Place → Place → Nat → Option Pushes)

def encodeShape? (value : Value) (depth : Nat) (container : Container) : Shape r → Option Encode
  | .leaf l => some (.leaf l value)
  | .struct t =>
    (nested t value.place (.bound ⟨.encoded, depth⟩) depth).map
      (.record container ⟨.encoded, depth⟩)

def encodeMember? (depth : Nat) (m : Member r) : Option Encode :=
  if m.field.isList then
    (encodeShape? nested (.boundTo ⟨.present, depth + 1⟩) (depth + 2) .anonymous m.shape).map
      (.list (.boundTo ⟨.present, depth⟩) ⟨.present, depth + 1⟩)
  else encodeShape? nested (.boundTo ⟨.present, depth⟩) (depth + 1) .invisible m.shape

def encodeMembers? (owner vector : Place) (depth : Nat) : List (Member r) → Option Pushes
  | [] => some .nil
  | m :: rest => do
    let encoded ← encodeMember? nested depth m
    let pushes ← encodeMembers? owner vector depth rest
    return .cons owner m.ident ⟨.present, depth⟩ vector m.field.id encoded pushes

/-- The expression that encodes a present member. -/
def memberEncode (depth : Nat) (m : Member r) : Encode :=
  if m.field.isList then
    .list (.boundTo ⟨.present, depth⟩) ⟨.present, depth + 1⟩
      ((r.layout m.shape).encode (.boundTo ⟨.present, depth + 1⟩) (depth + 2) .anonymous)
  else (r.layout m.shape).encode (.boundTo ⟨.present, depth⟩) (depth + 1) .invisible

/-- What `nested` gives for a struct are the statements of its layout. -/
def GivesPushes (t : DeclaredStruct r) : Prop :=
  ∀ owner vector depth,
    nested t owner vector depth = some ((r.slotsOfStruct t).pushes owner vector depth)

variable {nested}

theorem encodeShape?_eq {shape : Shape r} (h : ∀ t, shape = .struct t → GivesPushes nested t)
    (value : Value) (depth : Nat) (container : Container) :
    encodeShape? nested value depth container shape =
      some ((r.layout shape).encode value depth container) := by
  cases shape with
  | leaf l =>
      rfl
  | struct t =>
      simp [encodeShape?, h t rfl _ _ _, layout, Layout.encode]

theorem encodeMember?_eq {m : Member r} (h : ∀ t, m.shape = .struct t → GivesPushes nested t)
    (depth : Nat) :
    encodeMember? nested depth m = some (memberEncode depth m) := by
  unfold encodeMember? memberEncode
  split
  · simp [encodeShape?_eq h]
  · exact encodeShape?_eq h _ _ _

theorem encodeMembers?_eq {members : List (Member r)}
    (h : ∀ m ∈ members, ∀ t, m.shape = .struct t → GivesPushes nested t)
    (owner vector : Place) (depth : Nat) :
    encodeMembers? nested owner vector depth members =
      some ((Slots.ofList (members.map fun m => (m.field, r.layout m.shape))).pushes owner vector
        depth) := by
  induction members with
  | nil =>
      rfl
  | cons m rest ih =>
      have head := encodeMember?_eq (h m (.head _)) depth
      have tail := ih fun m' hm' => h m' (.tail _ hm')
      simp [encodeMembers?, head, tail, memberEncode, Slots.ofList, Slots.pushes, Member.ident]

end Encoding

def encodeStruct? (r : Resolved) : Nat → DeclaredStruct r → Place → Place → Nat → Option Pushes
  | 0, _, _, _, _ => none
  | budget + 1, t, owner, vector, depth =>
    encodeMembers? (r.encodeStruct? budget) owner vector depth
      (r.members (some t.decl.name) t.decl.fields)

/-- The statements for the fields of `owner`, unless structs nest deeper than the budget. -/
def encodeFields? (r : Resolved) (budget : Nat) (owner : Option String) (fields : List Field)
    (value vector : Place) (depth : Nat) : Option Pushes :=
  encodeMembers? (r.encodeStruct? budget) value vector depth (r.members owner fields)

theorem givesPushes_encodeStruct? {budget : Nat} {t : DeclaredStruct r}
    (enough : depthBound t ≤ budget) : GivesPushes (r.encodeStruct? budget) t := by
  refine budget_induction (P := fun budget => GivesPushes (r.encodeStruct? budget)) ?_ enough
  intro budget s nested owner vector depth
  rw [encodeStruct?, slotsOfStruct_eq, slots]
  exact encodeMembers?_eq (fun m hm u hu => nested u ⟨m, hm, hu⟩) owner vector depth

theorem givesPushes_of_size_le {budget : Nat} (enough : r.cluster.structs.size ≤ budget)
    (t : DeclaredStruct r) : GivesPushes (r.encodeStruct? budget) t :=
  givesPushes_encodeStruct? (Nat.le_trans (depthBound_le_size t) enough)

/-! ## Every expansion ends -/

/-- Nesting has no cycle.  Hence the expansion by name ends for every list of fields and every
owner, declared or not: the number of declared structs bounds how deep structs nest, and no struct
is written out inside itself. -/
theorem expansion_terminates (r : Resolved) :
    (∀ s, ¬ Relation.TransGen r.Nests s s) ∧
      (∀ (owner : Option String) (fields : List Field) (budget : Nat),
        r.cluster.structs.size ≤ budget →
          (∀ item depth,
            r.decodeFields? budget owner fields item depth =
              some ((r.slots owner fields).inits item depth)) ∧
          ∀ value vector depth,
            r.encodeFields? budget owner fields value vector depth =
              some ((r.slots owner fields).pushes value vector depth)) ∧
      (∀ (shape : Shape r) (budget : Nat), r.cluster.structs.size ≤ budget →
        (∀ depth,
          decodeElements? (r.decodeStruct? budget) depth shape =
            some ((r.layout shape).elements depth)) ∧
        ∀ value depth container,
          encodeShape? (r.encodeStruct? budget) value depth container shape =
            some ((r.layout shape).encode value depth container)) ∧
      ∀ (owner : Option String) (fields : List Field) (chain : List (DeclaredStruct r)),
        r.Chain owner fields chain →
          (chain.map (·.decl.name)).Nodup ∧ chain.length ≤ r.cluster.structs.size := by
  refine ⟨not_transGen_nests, ?_, ?_, ?_⟩
  · intro owner fields budget enough
    constructor
    · intro item depth
      exact decodeMembers?_eq (fun _ _ t _ => givesInits_of_size_le enough t) item depth
    · intro value vector depth
      exact encodeMembers?_eq (fun _ _ t _ => givesPushes_of_size_le enough t) value vector depth
  · intro shape budget enough
    constructor
    · intro depth
      exact decodeElements?_eq (fun t _ => givesInits_of_size_le enough t) depth
    · intro value depth container
      exact encodeShape?_eq (fun t _ => givesPushes_of_size_le enough t) value depth container
  · intro owner fields chain h
    exact ⟨h.nodup_names, h.length_le_size⟩

/-! ## A ring of two structs -/

theorem closesCycle_of_isRecursive {owner target : String}
    (h : r.isRecursive owner target = true) :
    StructTable.closesCycle r.cluster.structs owner target = true := by
  simp only [isRecursive, decide_eq_true_eq, r.edges_eq,
    StructTable.mem_recursiveEdges_iff] at h
  rcases h with ⟨_, _, _, _, hc⟩
  exact hc

/-- Two structs that hold each other, one of them through a list, and a third that holds one of
them. -/
def ring : Resolved :=
  .ofCluster
    { id := 6
      idText := "0x0006"
      name := "Ring"
      structs := .ofList [
        { name := "AStruct"
          fields := [{ id := 0, name := "B", typeName := "BStruct" }] },
        { name := "BStruct"
          fields := [{ id := 0, name := "As", typeName := "list", entryType := some "AStruct" }] },
        { name := "UserStruct"
          fields := [{ id := 0, name := "Node", typeName := "AStruct" }] }] }

theorem isRecursive_ring : ring.isRecursive "UserStruct" "AStruct" = false := by
  have nodes : (StructTable.graph ring.cluster.structs).nodes =
      ["AStruct", "BStruct", "UserStruct"] := by
    decide +kernel
  have nextA : (StructTable.graph ring.cluster.structs).next "AStruct" = ["BStruct"] := by
    decide +kernel
  have nextB : (StructTable.graph ring.cluster.structs).next "BStruct" = ["AStruct"] := by
    decide +kernel
  -- The search follows the ring from `AStruct` and comes back without meeting `UserStruct`.
  have noCycle : StructTable.closesCycle ring.cluster.structs "UserStruct" "AStruct" = false := by
    simp [StructTable.closesCycle, Digraph.reaches, Digraph.reachable, Digraph.explore, nodes,
      nextA, nextB]
  refine Bool.eq_false_iff.2 fun h => ?_
  rw [closesCycle_of_isRecursive h] at noCycle
  cases noCycle

theorem expansion_terminates_ring :
    ∃ (user : Field) (chain : List (DeclaredStruct ring)),
      ring.cluster.structs.size ≤ 3 ∧
        ring.decodeFields? 3 none [user] (.given "item") 0 =
          some ((ring.slots none [user]).inits (.given "item") 0) ∧
        ring.Chain none [user] chain ∧
        chain.map (·.decl.name) = ["UserStruct", "AStruct"] ∧
        (chain.map (·.decl.name)).Nodup ∧ chain.length ≤ ring.cluster.structs.size := by
  let node : Field := { id := 0, name := "Node", typeName := "AStruct" }
  let user : Field := { id := 1, name := "User", typeName := "UserStruct" }
  let inner : DeclaredStruct ring :=
    ⟨{ name := "AStruct", fields := [{ id := 0, name := "B", typeName := "BStruct" }] },
      by decide +kernel⟩
  let outer : DeclaredStruct ring :=
    ⟨{ name := "UserStruct", fields := [node] }, by decide +kernel⟩
  have hnode : ring.fieldShape (some "UserStruct") node = .ok (.struct inner) :=
    fieldShape_of_structName? (by decide +kernel) isRecursive_ring
  have huser : ring.fieldShape none user = .ok (.struct outer) :=
    fieldShape_of_structName? (by decide +kernel) rfl
  have chain : ring.Chain none [user] [outer, inner] :=
    .cons (mem_members_singleton huser) rfl (.cons (mem_members_singleton hnode) rfl .nil)
  have size : ring.cluster.structs.size ≤ 3 := by
    decide +kernel
  rcases expansion_terminates ring with ⟨-, fields, -, chains⟩
  exact ⟨user, [outer, inner], size, (fields none [user] 3 size).1 _ _, chain, rfl,
    chains none [user] _ chain⟩

end Resolved
end ClusterCodec

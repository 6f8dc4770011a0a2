import ClusterCodec.Module.Source
import Mathlib.Data.List.Basic
import Mathlib.Data.List.Lattice
import Mathlib.Data.List.Pairwise

/-!
# NameOwnership — who defines a name of the module

Items are taken in order, and a name belongs to the first item that is emitted with it.

- `Resolved.HasCode`, `Resolved.definedTypes`, `Resolved.definedFunctions`: which items have code,
  and the names that their code defines.
- `Claims.Free`, `Claims.OneOwner`: no name of a definition is taken; no name has two owners.
- `HoldsType`, `HoldsFunction`: the owner of a name after some outcomes.
- `claimsOver`: the names that are taken after some outcomes, `mem_claimsOver`: these are those of the
  emitted items.
- `candidates_split`: each item with code is emitted or recorded as skipped, and why.
-/

namespace ClusterCodec

/-! ## The names of an item -/

namespace Resolved

/-- Whether the item is emitted as long as its names are free. -/
def HasCode (r : Resolved) (s : Settings) : Item → Prop
  | .enum _ | .bitmap _ | .struct _ => True
  | .command c => c.fields ≠ []
  | .attr a => (r.decoderKind? s a).isSome = true
  | .response p => p.fields ≠ []
  | .event e => e.fields ≠ []

/-- The types and modules that the code of an item defines. -/
def definedTypes (r : Resolved) (s : Settings) : Item → List String
  | .enum e => [e.typeName]
  | .bitmap b => [b.typeName, b.moduleName]
  | .struct d => [d.typeName]
  -- Few parameters are passed one by one and need no type.
  | .command c => if r.usesParamsType s c then [c.paramsType] else []
  | .attr _ => []
  | .response p => [p.typeName]
  | .event e => [e.typeName]

/-- The functions that the code of an item defines. -/
def definedFunctions : Item → List String
  | .enum _ | .bitmap _ | .struct _ => []
  | .command c => [c.encoder]
  | .attr a => [a.decoder]
  | .response p => [p.decoder]
  | .event e => [e.decoder]

variable {r : Resolved} {s : Settings} {i : Item} {d : Definition r}

theorem isSome_definition?_iff : (r.definition? s i).isSome = true ↔ r.HasCode s i := by
  cases i with
  | enum e =>
      simp [definition?, HasCode]
  | bitmap b =>
      simp [definition?, HasCode]
  | struct d =>
      simp [definition?, HasCode]
  | command c =>
      by_cases h : c.fields = [] <;> simp [definition?, HasCode, commandEncoder?, h]
  | attr a =>
      simp [definition?, HasCode, attributeDecoder?]
  | response p =>
      by_cases h : p.fields = [] <;> simp [definition?, HasCode, responsePayload?, payload?, h]
  | event e =>
      by_cases h : e.fields = [] <;> simp [definition?, HasCode, eventPayload?, payload?, h]

theorem definition?_eq_none_iff : r.definition? s i = none ↔ ¬ r.HasCode s i := by
  rw [← isSome_definition?_iff, Option.isSome_iff_ne_none, not_not]

theorem names_of_definition? (h : r.definition? s i = some d) :
    d.typeNames = r.definedTypes s i ∧ d.functionNames = definedFunctions i := by
  cases i with
  | enum e =>
      cases h
      exact ⟨rfl, rfl⟩
  | bitmap b =>
      simp only [definition?, Option.some.injEq] at h
      subst h
      simp only [Definition.typeNames, Definition.functionNames, BitmapDecl.bitmapType,
        definedTypes, definedFunctions, and_self]
  | struct d =>
      cases h
      exact ⟨rfl, rfl⟩
  -- From here on there is code under a condition only, which the names do not depend on.
  | command c =>
      rcases Option.map_eq_some_iff.1 h with ⟨e, he, rfl⟩
      simp only [commandEncoder?, Option.ite_none_left_eq_some, Option.some.injEq] at he
      rcases he with ⟨-, rfl⟩
      refine ⟨?_, rfl⟩
      simp only [Definition.typeNames, definedTypes]
      split <;> rfl
  | attr a =>
      rcases Option.map_eq_some_iff.1 h with ⟨e, he, rfl⟩
      rcases Option.map_eq_some_iff.1 he with ⟨kind, -, rfl⟩
      exact ⟨rfl, rfl⟩
  | response p =>
      rcases Option.map_eq_some_iff.1 h with ⟨e, he, rfl⟩
      simp only [responsePayload?, payload?, Option.ite_none_left_eq_some,
        Option.some.injEq] at he
      rcases he with ⟨-, rfl⟩
      exact ⟨rfl, rfl⟩
  | event p =>
      rcases Option.map_eq_some_iff.1 h with ⟨e, he, rfl⟩
      simp only [eventPayload?, payload?, Option.ite_none_left_eq_some, Option.some.injEq] at he
      rcases he with ⟨-, rfl⟩
      exact ⟨rfl, rfl⟩

end Resolved

/-! ## Taken names -/

namespace Claims

section Taken

variable {taken : List (String × Owner)} {names : List String} {n : String} {o : Owner}

/-- None of the names is taken. -/
def Untaken (taken : List (String × Owner)) (names : List String) : Prop :=
  ∀ n ∈ names, ∀ o, (n, o) ∉ taken

/-- No name has two owners. -/
def OneOwner (taken : List (String × Owner)) : Prop :=
  ∀ n o o', (n, o) ∈ taken → (n, o') ∈ taken → o = o'

theorem firstTaken?_eq_none_iff : firstTaken? taken names = none ↔ Untaken taken names := by
  simp only [firstTaken?, List.findSome?_eq_none_iff, Option.map_eq_none_iff,
    List.lookup_eq_none_iff]
  constructor
  · intro h n hn o ho
    simpa using h n hn (n, o) ho
  · intro h n hn p hp
    rcases p with ⟨m, o⟩
    -- Looking up compares names, so two cases are left.
    by_cases same : n = m
    · subst same
      exact (h n hn o hp).elim
    · simpa using same

theorem mem_of_firstTaken? (h : firstTaken? taken names = some (n, o)) :
    n ∈ names ∧ (n, o) ∈ taken := by
  rcases List.exists_of_findSome?_eq_some h with ⟨m, hm, found⟩
  rcases Option.map_eq_some_iff.1 found with ⟨p, hp, same⟩
  cases same
  rcases List.lookup_eq_some_iff.1 hp with ⟨front, back, rfl, -⟩
  exact ⟨hm, by simp⟩

theorem mem_give_iff {p : String × Owner} :
    p ∈ names.map (·, o) ++ taken ↔ (p.1 ∈ names ∧ p.2 = o) ∨ p ∈ taken := by
  rcases p with ⟨m, o'⟩
  simp [eq_comm, and_comm]

/-- Free names may be given to an owner. -/
theorem OneOwner.give (h : OneOwner taken) (free : Untaken taken names) :
    OneOwner (names.map (·, o) ++ taken) := by
  intro n o₁ o₂ h₁ h₂
  rw [mem_give_iff] at h₁ h₂
  rcases h₁ with ⟨hn, same₁⟩ | h₁
  · rcases h₂ with ⟨-, same₂⟩ | h₂
    · exact same₁.trans same₂.symm
    · exact (free n hn _ h₂).elim
  · rcases h₂ with ⟨hn, -⟩ | h₂
    · exact (free n hn _ h₁).elim
    · exact h n _ _ h₁ h₂

end Taken

variable {r : Resolved} {c : Claims} {d : Definition r} {n : String} {o : Owner}

/-- No name of the definition is taken. -/
def Free (c : Claims) (d : Definition r) : Prop :=
  Untaken c.types d.typeNames ∧ Untaken c.functions d.functionNames

structure Sound (c : Claims) : Prop where
  types : OneOwner c.types
  functions : OneOwner c.functions

theorem conflict?_eq_none_iff : c.conflict? d = none ↔ c.Free d := by
  rw [conflict?, Option.or_eq_none_iff, firstTaken?_eq_none_iff, firstTaken?_eq_none_iff, Free]

/-- A conflict is a taken name of the definition with its owner. -/
theorem mem_of_conflict? (h : c.conflict? d = some (n, o)) :
    (n ∈ d.typeNames ∧ (n, o) ∈ c.types) ∨ (n ∈ d.functionNames ∧ (n, o) ∈ c.functions) := by
  rcases Option.or_eq_some_iff.1 h with h | ⟨-, h⟩
  · exact .inl (mem_of_firstTaken? h)
  · exact .inr (mem_of_firstTaken? h)

theorem Sound.take (h : c.Sound) (free : c.Free d) : (c.take o d).Sound :=
  ⟨h.types.give free.1, h.functions.give free.2⟩

end Claims

/-! ## One outcome -/

namespace Resolved

variable {r : Resolved} {s : Settings} {c : Claims} {i : Item}

theorem definition?_eq_some_iff {o : Outcome r} {d : Definition r} :
    o.definition? = some d ↔ o = .emitted d := by
  cases o <;> simp [Outcome.definition?]

theorem exists_eq_emitted {o : Outcome r} (h : o.definition?.isSome = true) :
    ∃ d, o = .emitted d :=
  (Option.isSome_iff_exists.1 h).imp fun _ => definition?_eq_some_iff.1

theorem eq_skipped_of_record? {o : Outcome r} {record : Skipped} (h : o.record? = some record) :
    o = .skipped record := by
  cases o with
  | nothing =>
      cases h
  | skipped record =>
      cases h
      rfl
  | emitted d =>
      cases h

theorem outcome_eq_nothing_iff :
    outcome s c i = (.nothing : Outcome r) ↔ ¬ r.HasCode s i := by
  rw [← definition?_eq_none_iff]
  unfold outcome
  cases r.definition? s i with
  | none =>
      simp
  | some d =>
      cases hc : c.conflict? d with
      | none =>
          simp [hc]
      | some p =>
          simp [hc]

theorem outcome_eq_emitted_iff {d : Definition r} :
    outcome s c i = .emitted d ↔ r.definition? s i = some d ∧ c.Free d := by
  rw [← Claims.conflict?_eq_none_iff]
  unfold outcome
  cases r.definition? s i with
  | none =>
      simp
  | some e =>
      cases hc : c.conflict? e with
      | none =>
          simp only [hc, Outcome.emitted.injEq, Option.some.injEq]
          constructor
          · rintro rfl
            exact ⟨rfl, hc⟩
          · exact And.left
      | some p =>
          simp only [hc, reduceCtorEq, Option.some.injEq, false_iff, not_and]
          rintro rfl
          rw [hc]
          exact Option.some_ne_none p

theorem outcome_eq_skipped_iff {record : Skipped} :
    outcome s c i = (.skipped record : Outcome r) ↔
      ∃ d, r.definition? s i = some d ∧ c.conflict? d = some (record.name, record.owner) ∧
        record.kind = i.kind ∧ record.source = i.name := by
  unfold outcome
  cases r.definition? s i with
  | none =>
      simp
  | some d =>
      rcases record with ⟨kind, source, name, owner⟩
      cases hc : c.conflict? d with
      | none =>
          simp [hc]
      | some p =>
          rcases p with ⟨n, o⟩
          simp only [hc, Outcome.skipped.injEq, Skipped.mk.injEq, Option.some.injEq,
            Prod.mk.injEq, exists_eq_left']
          constructor
          · rintro ⟨rfl, rfl, rfl, rfl⟩
            exact ⟨⟨rfl, rfl⟩, rfl, rfl⟩
          · rintro ⟨⟨rfl, rfl⟩, rfl, rfl⟩
            exact ⟨rfl, rfl, rfl, rfl⟩

theorem sound_claimsAfter (h : c.Sound) :
    (claimsAfter c i (outcome s c i : Outcome r)).Sound := by
  cases ho : (outcome s c i : Outcome r) with
  | nothing =>
      exact h
  | skipped record =>
      exact h
  | emitted d =>
      exact h.take (outcome_eq_emitted_iff.1 ho).2

/-! ## Outcomes in a row -/

/-- The taken names after some outcomes. -/
def claimsOver (c : Claims) : List (Item × Outcome r) → Claims
  | [] => c
  | (i, o) :: rest => claimsOver (claimsAfter c i o) rest

/-- An emitted item of the list is the owner of the name. -/
def Holds (names : Definition r → List String) (before : List (Item × Outcome r)) (n : String)
    (owner : Owner) : Prop :=
  ∃ i d, (i, Outcome.emitted d) ∈ before ∧ n ∈ names d ∧ owner = i.owner

variable {before after : List (Item × Outcome r)} {o : Outcome r} {items : List Item}

theorem holds_cons_iff {names : Definition r → List String} {n : String} {owner : Owner} :
    Holds names ((i, o) :: before) n owner ↔
      (∃ d, o = .emitted d ∧ n ∈ names d ∧ owner = i.owner) ∨ Holds names before n owner := by
  constructor
  · rintro ⟨j, d, hj, hn, rfl⟩
    rcases List.mem_cons.1 hj with same | hj
    · cases same
      exact .inl ⟨d, rfl, hn, rfl⟩
    · exact .inr ⟨j, d, hj, hn, rfl⟩
  · rintro (⟨d, rfl, hn, rfl⟩ | ⟨j, d, hj, hn, rfl⟩)
    · exact ⟨i, d, List.mem_cons_self, hn, rfl⟩
    · exact ⟨j, d, List.mem_cons_of_mem _ hj, hn, rfl⟩

/-- After some outcomes, a list of taken names to which each definition adds some of its names has those
of the emitted items and those that it had. -/
theorem mem_claimsOver {table : Claims → List (String × Owner)} {names : Definition r → List String}
    (table_take : ∀ c owner d, table (Claims.take c owner d) = (names d).map (·, owner) ++ table c)
    {p : String × Owner} :
    p ∈ table (claimsOver c before) ↔ Holds names before p.1 p.2 ∨ p ∈ table c := by
  induction before generalizing c with
  | nil =>
      simp [claimsOver, Holds]
  | cons head before ih =>
      rcases head with ⟨i, o⟩
      rw [claimsOver, ih, holds_cons_iff]
      cases o with
      | nothing =>
          simp [claimsAfter]
      | skipped record =>
          simp [claimsAfter]
      | emitted d =>
          simp only [claimsAfter, table_take, Claims.mem_give_iff, Outcome.emitted.injEq,
            exists_eq_left']
          tauto

theorem mem_types_claimsOver {p : String × Owner} :
    p ∈ (claimsOver c before).types ↔ Holds Definition.typeNames before p.1 p.2 ∨ p ∈ c.types :=
  mem_claimsOver fun _ _ _ => rfl

theorem mem_functions_claimsOver {p : String × Owner} :
    p ∈ (claimsOver c before).functions ↔
      Holds Definition.functionNames before p.1 p.2 ∨ p ∈ c.functions :=
  mem_claimsOver fun _ _ _ => rfl

theorem fst_outcomesFrom :
    (outcomesFrom s c items : List (Item × Outcome r)).map Prod.fst = items := by
  induction items generalizing c with
  | nil =>
      rfl
  | cons i items ih =>
      simp only [outcomesFrom, List.map_cons, ih]

/-- Each outcome is decided by the names that the outcomes before it took. -/
theorem outcome_of_split (sound : c.Sound)
    (split : outcomesFrom s c items = before ++ (i, o) :: after) :
    o = outcome s (claimsOver c before) i ∧ (claimsOver c before).Sound := by
  -- The taken names are general, since each outcome before `i` adds to them.
  induction before generalizing c items with
  | nil =>
      cases items with
      | nil =>
          cases split
      | cons j items =>
          simp only [outcomesFrom, List.nil_append, List.cons.injEq, Prod.mk.injEq] at split
          rcases split with ⟨⟨rfl, rfl⟩, -⟩
          exact ⟨rfl, sound⟩
  | cons head before ih =>
      cases items with
      | nil =>
          cases split
      | cons j items =>
          simp only [outcomesFrom, List.cons_append, List.cons.injEq] at split
          rcases split with ⟨rfl, split⟩
          exact ih (sound_claimsAfter sound) split

/-- What was taken stays taken. -/
theorem free_of_mem {d : Definition r} (h : (i, .emitted d) ∈ outcomesFrom s c items) :
    c.Free d := by
  induction items generalizing c with
  | nil =>
      cases h
  | cons j items ih =>
      rcases List.mem_cons.1 h with same | h
      · rcases Prod.mk.inj same with ⟨-, ho⟩
        exact (outcome_eq_emitted_iff.1 ho.symm).2
      · -- A name that is free after `j` was free before it, because `j` only adds names.
        have later := ih h
        cases ho : (outcome s c j : Outcome r) with
        | nothing =>
            simpa only [ho, claimsAfter] using later
        | skipped record =>
            simpa only [ho, claimsAfter] using later
        | emitted e =>
            simp only [ho, claimsAfter, Claims.take] at later
            refine ⟨fun n hn owner mem => later.1 n hn owner ?_,
              fun n hn owner mem => later.2 n hn owner ?_⟩
            · exact List.mem_append_right _ mem
            · exact List.mem_append_right _ mem

/-- No name of one definition is a name of the other. -/
def Apart (d e : Definition r) : Prop :=
  d.typeNames.Disjoint e.typeNames ∧ d.functionNames.Disjoint e.functionNames

theorem apart_of_free_take {owner : Owner} {d e : Definition r}
    (h : (c.take owner d).Free e) : Apart d e := by
  refine ⟨fun n hd he => h.1 n he owner ?_, fun n hd he => h.2 n he owner ?_⟩
  · exact Claims.mem_give_iff.2 (.inl ⟨hd, rfl⟩)
  · exact Claims.mem_give_iff.2 (.inl ⟨hd, rfl⟩)

theorem pairwise_apart :
    (outcomesFrom s c items : List (Item × Outcome r)).Pairwise fun p q =>
      ∀ d e, p.2 = .emitted d → q.2 = .emitted e → Apart d e := by
  induction items generalizing c with
  | nil =>
      exact .nil
  | cons i items ih =>
      refine .cons ?_ ih
      -- A later definition is free although the first item has taken its names.
      rintro ⟨j, o⟩ hj d e hd rfl
      simp only at hd
      have free : (claimsAfter c i (outcome s c i)).Free e := free_of_mem hj
      rw [hd] at free
      exact apart_of_free_take free

theorem Apart.symm {d e : Definition r} (h : Apart d e) : Apart e d :=
  ⟨h.1.symm, h.2.symm⟩

/-- Two emitted items are the same, or no name is defined by both. -/
theorem eq_or_apart {j : Item} {d e : Definition r} (hd : (i, .emitted d) ∈ outcomesFrom s c items)
    (he : (j, .emitted e) ∈ outcomesFrom s c items) : (i = j ∧ d = e) ∨ Apart d e := by
  by_cases same : (i, Outcome.emitted d) = (j, .emitted e)
  · cases same
    exact .inl ⟨rfl, rfl⟩
  · have symm : Std.Symm fun p q : Item × Outcome r =>
        ∀ d e, p.2 = .emitted d → q.2 = .emitted e → Apart d e :=
      ⟨fun p q h d e hd he => (h e d he hd).symm⟩
    exact .inr (pairwise_apart.forall hd he same d e rfl rfl)

/-- The outcomes of the items that are emitted. -/
def emittedOf (outcomes : List (Item × Outcome r)) : List (Item × Outcome r) :=
  outcomes.filter (·.2.definition?.isSome)

/-- The items that are not emitted have no influence on the others. -/
theorem outcomesFrom_emittedOf :
    outcomesFrom s c ((emittedOf (outcomesFrom s c items : List (Item × Outcome r))).map Prod.fst) =
      emittedOf (outcomesFrom s c items : List (Item × Outcome r)) := by
  induction items generalizing c with
  | nil =>
      rfl
  | cons i items ih =>
      rw [outcomesFrom]
      -- The taken names change where an item is emitted and nowhere else.
      cases ho : (outcome s c i : Outcome r) with
      | nothing =>
          exact ih
      | skipped record =>
          exact ih
      | emitted d =>
          rw [emittedOf, List.filter_cons_of_pos rfl, List.map_cons, outcomesFrom, ho]
          exact congrArg _ ih

/-! ## The order of the parts -/

/-- Collecting kind by kind changes nothing when the kinds stand in order. -/
theorem flatMap_filterMap_kinds {α β κ : Type} [DecidableEq κ] {kind : α → κ} {f : α → Option β}
    {count : κ → Nat} {kinds : List κ} (nodup : kinds.Nodup) {l : List α}
    (h : l.map kind = kinds.flatMap fun k => List.replicate (count k) k) :
    (kinds.flatMap fun k => l.filterMap fun a => if kind a = k then f a else none) =
      l.filterMap f := by
  induction kinds generalizing l with
  | nil =>
      rw [List.map_eq_nil_iff.1 h]
      rfl
  | cons k kinds ih =>
      -- All that is of kind `k` stands in front, and nothing else does.
      rcases List.nodup_cons.1 nodup with ⟨absent, nodup⟩
      rcases List.map_eq_append_iff.1 h with ⟨front, back, rfl, hfront, hback⟩
      have inFront : ∀ a ∈ front, kind a = k := by
        intro a ha
        have mem := List.mem_map_of_mem (f := kind) ha
        rw [hfront] at mem
        exact List.eq_of_mem_replicate mem
      have inBack : ∀ a ∈ back, kind a ∈ kinds := by
        intro a ha
        have mem := List.mem_map_of_mem (f := kind) ha
        rw [hback] at mem
        rcases List.mem_flatMap.1 mem with ⟨k', hk', mem⟩
        rw [List.eq_of_mem_replicate mem]
        exact hk'
      have atFront : (front ++ back).filterMap (fun a => if kind a = k then f a else none) =
          front.filterMap f := by
        have none : back.filterMap (fun a => if kind a = k then f a else none) = [] := by
          refine List.filterMap_eq_nil_iff.2 fun a ha => if_neg fun same => absent ?_
          rw [← same]
          exact inBack a ha
        rw [List.filterMap_append, none, List.append_nil]
        exact List.filterMap_congr fun a ha => if_pos (inFront a ha)
      have later : ∀ k' ∈ kinds, (front ++ back).filterMap
          (fun a => if kind a = k' then f a else none) =
            back.filterMap fun a => if kind a = k' then f a else none := by
        intro k' hk'
        rw [List.filterMap_append, List.filterMap_eq_nil_iff.2, List.nil_append]
        intro a ha
        refine if_neg fun same => absent ?_
        rw [← inFront a ha, same]
        exact hk'
      rw [List.flatMap_cons, atFront, List.flatMap_congr later, ih nodup hback,
        List.filterMap_append]

theorem kind_items (c : Cluster) : ∃ count : ItemKind → Nat,
    c.items.map Item.kind = ItemKind.all.flatMap fun k => List.replicate (count k) k := by
  refine ⟨fun k => (c.items.filter fun i => i.kind = k).length, ?_⟩
  simp [Cluster.items, ItemKind.all, Function.comp_def, Item.kind, List.filter_map,
    List.map_const']

/-! ## Blocked items -/

variable (r)

/-- The function is reserved, or an emitted item of the list is the owner of its name. -/
def HoldsFunction (before : List (Item × Outcome r)) (n : String) (owner : Owner) : Prop :=
  Holds Definition.functionNames before n owner ∨ (n ∈ r.reservedFunctions ∧ owner = .helper)

/-- A name of the item has an owner. -/
def Blocked (s : Settings) (before : List (Item × Outcome r)) (i : Item) : Prop :=
  (∃ n ∈ r.definedTypes s i, ∃ owner, Holds Definition.typeNames before n owner) ∨
    ∃ n ∈ definedFunctions i, ∃ owner, r.HoldsFunction before n owner

/-- The record is about the item, and gives a name of the item with its only owner. -/
structure Explains (s : Settings) (before : List (Item × Outcome r)) (i : Item)
    (record : Skipped) : Prop where
  kind : record.kind = i.kind
  source : record.source = i.name
  owner : (record.name ∈ r.definedTypes s i ∧
      ∀ o, Holds Definition.typeNames before record.name o ↔ o = record.owner) ∨
    (record.name ∈ definedFunctions i ∧
      ∀ o, r.HoldsFunction before record.name o ↔ o = record.owner)

variable {r}

theorem sound_initialClaims : r.initialClaims.Sound := by
  constructor
  · intro n o o' h
    cases h
  · intro n o o' h h'
    rcases List.mem_map.1 h with ⟨_, -, same⟩
    rcases List.mem_map.1 h' with ⟨_, -, same'⟩
    cases same
    cases same'
    rfl

theorem mem_types_initialClaims_iff {n : String} {owner : Owner} :
    (n, owner) ∈ (claimsOver r.initialClaims before).types ↔
      Holds Definition.typeNames before n owner := by
  rw [mem_types_claimsOver]
  simp [initialClaims]

theorem mem_functions_initialClaims_iff {n : String} {owner : Owner} :
    (n, owner) ∈ (claimsOver r.initialClaims before).functions ↔
      r.HoldsFunction before n owner := by
  rw [mem_functions_claimsOver, HoldsFunction]
  simp [initialClaims, eq_comm]

theorem free_iff_not_blocked {d : Definition r} (h : r.definition? s i = some d) :
    (claimsOver r.initialClaims before).Free d ↔ ¬ r.Blocked s before i := by
  rcases names_of_definition? h with ⟨types, functions⟩
  rw [Claims.Free, Claims.Untaken, Claims.Untaken, types, functions, Blocked]
  simp only [mem_types_initialClaims_iff, mem_functions_initialClaims_iff, not_or, not_exists,
    not_and]

theorem skipped_iff_blocked (split : r.outcomes s = before ++ (i, o) :: after)
    (code : r.HasCode s i) : (∃ record, o = .skipped record) ↔ r.Blocked s before i := by
  rcases outcome_of_split sound_initialClaims split with ⟨rfl, -⟩
  rcases Option.isSome_iff_exists.1 (isSome_definition?_iff.2 code) with ⟨d, hd⟩
  constructor
  · rintro ⟨record, skipped⟩
    by_contra free
    rw [outcome_eq_emitted_iff.2 ⟨hd, (free_iff_not_blocked hd).2 free⟩] at skipped
    cases skipped
  · intro blocked
    cases ho : outcome s (claimsOver r.initialClaims before) i with
    | nothing =>
        exact (outcome_eq_nothing_iff.1 ho code).elim
    | skipped record =>
        exact ⟨record, rfl⟩
    | emitted e =>
        rcases outcome_eq_emitted_iff.1 ho with ⟨he, free⟩
        exact ((free_iff_not_blocked he).1 free blocked).elim

theorem explains_of_split {record : Skipped}
    (split : r.outcomes s = before ++ (i, .skipped record) :: after) :
    r.Explains s before i record := by
  rcases outcome_of_split sound_initialClaims split with ⟨skipped, sound⟩
  rcases outcome_eq_skipped_iff.1 skipped.symm with ⟨d, hd, conflict, kind, source⟩
  rcases names_of_definition? hd with ⟨types, functions⟩
  refine ⟨kind, source, ?_⟩
  rcases Claims.mem_of_conflict? conflict with ⟨hn, held⟩ | ⟨hn, held⟩
  · -- The record names one owner, and a name has no other.
    refine .inl ⟨types ▸ hn, fun o => ?_⟩
    rw [← mem_types_initialClaims_iff]
    constructor
    · intro h
      exact sound.types _ _ _ h held
    · rintro rfl
      exact held
  · refine .inr ⟨functions ▸ hn, fun o => ?_⟩
    rw [← mem_functions_initialClaims_iff]
    constructor
    · intro h
      exact sound.functions _ _ _ h held
    · rintro rfl
      exact held

theorem emitted_of_split {d : Definition r}
    (split : r.outcomes s = before ++ (i, .emitted d) :: after) :
    r.definition? s i = some d ∧ ¬ r.Blocked s before i := by
  rcases outcome_of_split sound_initialClaims split with ⟨emitted, -⟩
  rcases outcome_eq_emitted_iff.1 emitted.symm with ⟨hd, free⟩
  exact ⟨hd, (free_iff_not_blocked hd).1 free⟩

/-! ## Emitted or skipped -/

theorem items_outcomes : (r.outcomes s).map Prod.fst = r.cluster.items :=
  fst_outcomesFrom

theorem outcome_of_mem (h : (i, o) ∈ r.outcomes s) :
    ∃ before : List (Item × Outcome r), o = outcome s (claimsOver r.initialClaims before) i := by
  rcases List.append_of_mem h with ⟨before, after, split⟩
  exact ⟨before, (outcome_of_split sound_initialClaims split).1⟩

theorem xor_of_hasCode (h : (i, o) ∈ r.outcomes s) (code : r.HasCode s i) :
    Xor (∃ d, o = .emitted d) (∃ record, o = .skipped record) := by
  rcases outcome_of_mem h with ⟨before, ho⟩
  cases o with
  | nothing =>
      exact (outcome_eq_nothing_iff.1 ho.symm code).elim
  | emitted d =>
      refine .inl ⟨⟨d, rfl⟩, ?_⟩
      rintro ⟨record, skipped⟩
      cases skipped
  | skipped record =>
      refine .inr ⟨⟨record, rfl⟩, ?_⟩
      rintro ⟨d, emitted⟩
      cases emitted

/-- Whether an item is emitted can be computed without its code. -/
theorem emitted_of_isSome
    (h : (i, true) ∈ (r.outcomes s).map fun p => (p.1, p.2.definition?.isSome)) :
    ∃ d, (i, .emitted d) ∈ r.outcomes s := by
  rcases List.mem_map.1 h with ⟨⟨j, o⟩, ho, same⟩
  rcases Prod.mk.inj same with ⟨rfl, some⟩
  rcases exists_eq_emitted some with ⟨d, rfl⟩
  exact ⟨d, ho⟩

/-- Outcomes stand in the order of the items, and items in the order of their kinds. -/
theorem flatMap_filterMap_outcomes {β : Type} {f : Item × Outcome r → Option β} :
    (ItemKind.all.flatMap fun k => (r.outcomes s).filterMap fun p =>
      if p.1.kind = k then f p else none) = (r.outcomes s).filterMap f := by
  rcases kind_items r.cluster with ⟨count, kinds⟩
  have sorted : (r.outcomes s).map (fun p => p.1.kind) =
      ItemKind.all.flatMap fun k => List.replicate (count k) k := by
    rw [← kinds, ← items_outcomes (s := s), List.map_map]
    rfl
  exact flatMap_filterMap_kinds (by decide) sorted

theorem flatMap_emittedParts :
    ItemKind.all.flatMap (r.emittedParts (r.outcomes s)) =
      (r.outcomes s).filterMap fun p => p.2.definition?.map Definition.text :=
  flatMap_filterMap_outcomes

theorem records_in_order :
    (r.skipped s).map (fun record => (record.kind, record.source)) =
      ((r.outcomes s).filter (·.2.record?.isSome)).map fun p => (p.1.kind, p.1.name) := by
  rw [skipped, List.map_filterMap, ← List.filterMap_eq_map, List.filterMap_filter]
  refine List.filterMap_congr fun p hp => ?_
  rcases p with ⟨i, o⟩
  cases o with
  | nothing =>
      rfl
  | emitted d =>
      rfl
  | skipped record =>
      rcases List.append_of_mem hp with ⟨before, after, split⟩
      have explains := explains_of_split split
      simp only [Outcome.record?, Option.map_some, Option.isSome_some, if_true,
        Function.comp_apply, explains.kind, explains.source]

/-- Each item of the cluster that has code is either emitted or skipped.  The code of the emitted
items and the records of the skipped ones stand in the order of the items.  No two emitted items
define the same type or function, and none defines a reserved function.  An item is skipped just
when one of its names has an owner, and its record gives such a name and the only owner of it.
Without the items that are not emitted the others would have the same outcomes. -/
theorem items_emitted_or_skipped (r : Resolved) (s : Settings) :
    (r.outcomes s).map Prod.fst = r.cluster.items ∧
      (∀ i o, (i, o) ∈ r.outcomes s →
        (r.HasCode s i → Xor (∃ d, o = .emitted d) (∃ record, o = .skipped record)) ∧
        (¬ r.HasCode s i → o = .nothing)) ∧
      (ItemKind.all.flatMap (r.emittedParts (r.outcomes s)) =
          (r.outcomes s).filterMap fun p => p.2.definition?.map Definition.text) ∧
      ((r.skipped s).map (fun record => (record.kind, record.source)) =
          ((r.outcomes s).filter (·.2.record?.isSome)).map fun p => (p.1.kind, p.1.name)) ∧
      (∀ i d, (i, .emitted d) ∈ r.outcomes s →
        d.typeNames = r.definedTypes s i ∧ d.functionNames = definedFunctions i ∧
          d.functionNames.Disjoint r.reservedFunctions) ∧
      ((r.outcomes s).Pairwise fun p q =>
        ∀ d e, p.2 = .emitted d → q.2 = .emitted e → Apart d e) ∧
      (∀ before i o after, r.outcomes s = before ++ (i, o) :: after → r.HasCode s i →
        ((∃ record, o = .skipped record) ↔ r.Blocked s before i) ∧
          ∀ record, o = .skipped record → r.Explains s before i record) ∧
      outcomesFrom s r.initialClaims ((emittedOf (r.outcomes s)).map Prod.fst) =
        emittedOf (r.outcomes s) := by
  refine ⟨items_outcomes, ?_, flatMap_emittedParts, records_in_order, ?_, pairwise_apart, ?_,
    outcomesFrom_emittedOf⟩
  · intro i o h
    refine ⟨xor_of_hasCode h, fun absent => ?_⟩
    rcases outcome_of_mem h with ⟨before, rfl⟩
    exact outcome_eq_nothing_iff.2 absent
  · intro i d h
    rcases List.append_of_mem h with ⟨before, after, split⟩
    rcases emitted_of_split split with ⟨hd, free⟩
    rcases names_of_definition? hd with ⟨types, functions⟩
    refine ⟨types, functions, ?_⟩
    intro n hn reserved
    exact free (.inr ⟨n, functions ▸ hn, .helper, .inr ⟨reserved, rfl⟩⟩)
  · intro before i o after split code
    refine ⟨skipped_iff_blocked split code, ?_⟩
    rintro record rfl
    exact explains_of_split split

/-- Two structs whose types have one name, and an event that is not in their way. -/
def widgets : Resolved :=
  .ofCluster
    { id := 7
      idText := "0x0007"
      name := "Widgets"
      structs := .ofList [
        { name := "WidgetStruct", fields := [{ id := 0, name := "Size", typeName := "uint8" }] },
        { name := "Widget", fields := [{ id := 0, name := "Name", typeName := "string" }] }]
      events := [
        { id := "0x00", name := "WidgetMoved", priority := "info"
          fields := [{ id := 0, name := "Where", typeName := "uint16" }] }] }

theorem items_emitted_or_skipped_widgets :
    ∃ first second last o record o',
      widgets.cluster.items = [first, second, last] ∧
        widgets.outcomes {} = [(first, o)] ++ (second, .skipped record) :: [(last, o')] ∧
        widgets.HasCode {} second ∧ widgets.Blocked {} [(first, o)] second ∧
        widgets.Explains {} [(first, o)] second record ∧
        record = ⟨.struct, "Widget", "Widget", .item .struct "WidgetStruct"⟩ ∧
        ∃ d e, o = .emitted d ∧ o' = .emitted e ∧ Apart d e := by
  let first : Item := .struct
    { name := "WidgetStruct", fields := [{ id := 0, name := "Size", typeName := "uint8" }] }
  let second : Item := .struct
    { name := "Widget", fields := [{ id := 0, name := "Name", typeName := "string" }] }
  let last : Item := .event
    { id := "0x00", name := "WidgetMoved", priority := "info"
      fields := [{ id := 0, name := "Where", typeName := "uint16" }] }
  have items : widgets.cluster.items = [first, second, last] := by
    decide +kernel
  have results : (widgets.outcomes {}).map (fun p => (p.2.definition?.isSome, p.2.record?)) =
      [(true, none),
        (false, some ⟨.struct, "Widget", "Widget", .item .struct "WidgetStruct"⟩),
        (true, none)] := by
    decide +kernel
  have split : ∃ o₁ o₂ o₃, widgets.outcomes {} = [(first, o₁), (second, o₂), (last, o₃)] := by
    rw [outcomes, items]
    exact ⟨_, _, _, rfl⟩
  rcases split with ⟨o₁, o₂, o₃, split⟩
  rw [split] at results
  simp only [List.map_cons, List.map_nil, List.cons.injEq, Prod.mk.injEq, and_true] at results
  rcases results with ⟨⟨emitted₁, -⟩, ⟨-, skipped₂⟩, emitted₃, -⟩
  rcases exists_eq_emitted emitted₁ with ⟨d, rfl⟩
  rcases exists_eq_emitted emitted₃ with ⟨e, rfl⟩
  rw [eq_skipped_of_record? skipped₂] at split
  rcases items_emitted_or_skipped widgets {} with ⟨-, -, -, -, -, apart, blocked, -⟩
  rcases blocked [(first, .emitted d)] second _ [(last, .emitted e)] split trivial with
    ⟨skip, explains⟩
  rw [split] at apart
  have after := (List.pairwise_cons.1 apart).1 (last, .emitted e) (by simp)
  exact ⟨first, second, last, _, _, _, items, split, trivial, skip.1 ⟨_, rfl⟩,
    explains _ rfl, rfl, d, e, rfl, rfl, after d e rfl rfl⟩

end Resolved
end ClusterCodec

import ClusterCodec.Proofs.NameOwnership

/-!
# AttributeRun — what becomes of the attributes one after the other

Only attributes compete for the names of decoders: the functions of commands are named otherwise, and
responses and events come later.

- `FirstWith`: the first entry of a list that has a property at its place.
- `Claims.TakesFunction`: the function has an owner.
- `takesFunction_claimsAfter`: an attribute with code leaves the name of its decoder taken, whether
  the decoder is its own or not.
- `Resolved.Reached`: the decoder of the attribute is defined at its place.
- `mem_outcomes_attr_iff`: which attributes are emitted.
- `find?_routedAttributes_eq_some_iff`: the first attribute with a property that may be routed.
-/

namespace ClusterCodec

/-! ## First entries -/

section First

variable {α : Type} {P : List α → α → Prop} {l : List α} {a x : α}

/-- The entry has the property after the entries before it, and none of those has it at its place. -/
def FirstWith (P : List α → α → Prop) (l : List α) (a : α) : Prop :=
  ∃ before after, l = before ++ a :: after ∧ P before a ∧
    ∀ front b back, before = front ++ b :: back → ¬ P front b

theorem not_firstWith_nil : ¬ FirstWith P [] a := by
  rintro ⟨before, after, split, -⟩
  cases before <;> cases split

theorem firstWith_cons_iff :
    FirstWith P (x :: l) a ↔
      (P [] x ∧ a = x) ∨ (¬ P [] x ∧ FirstWith (fun before => P (x :: before)) l a) := by
  constructor
  · rintro ⟨before, after, split, holds, earlier⟩
    cases before with
    | nil =>
        cases split
        exact .inl ⟨holds, rfl⟩
    | cons y before =>
        cases split
        refine .inr ⟨earlier [] x before rfl, before, after, rfl, holds, ?_⟩
        rintro front b back rfl
        exact earlier (x :: front) b back rfl
  · -- What stands before the entry is the head or stands before the entry in the tail.
    rintro (⟨holds, rfl⟩ | ⟨fails, before, after, rfl, holds, earlier⟩)
    · refine ⟨[], l, rfl, holds, fun front b back split => ?_⟩
      cases front <;> cases split
    · refine ⟨x :: before, after, rfl, holds, fun front b back split => ?_⟩
      cases front with
      | nil =>
          cases split
          exact fails
      | cons y front =>
          cases split
          exact earlier front b back rfl

/-- If an entry has the property, then one is the first. -/
theorem exists_firstWith {before after : List α} (split : l = before ++ a :: after)
    (holds : P before a) : ∃ b, FirstWith P l b := by
  induction l generalizing P before with
  | nil => cases before <;> cases split
  | cons x l ih =>
      by_cases head : P [] x
      · exact ⟨x, firstWith_cons_iff.2 (.inl ⟨head, rfl⟩)⟩
      · cases before with
        | nil =>
            cases split
            exact (head holds).elim
        | cons y before =>
            cases split
            rcases ih (P := fun before => P (x :: before)) rfl holds with ⟨b, first⟩
            exact ⟨b, firstWith_cons_iff.2 (.inr ⟨head, first⟩)⟩

/-- The first entry does not stand behind one that has the property. -/
theorem eq_or_mem_of_firstWith {before after : List α} (first : FirstWith P l x)
    (split : l = before ++ a :: after) (holds : P before a) : x = a ∨ x ∈ before := by
  induction l generalizing P before with
  | nil => exact (not_firstWith_nil first).elim
  | cons y l ih =>
      rcases firstWith_cons_iff.1 first with ⟨-, rfl⟩ | ⟨fails, first⟩
      · cases before with
        | nil =>
            cases split
            exact .inl rfl
        | cons z before =>
            cases split
            exact .inr List.mem_cons_self
      · cases before with
        | nil =>
            cases split
            exact (fails holds).elim
        | cons z before =>
            cases split
            exact (ih first rfl holds).imp_right (List.mem_cons_of_mem _)

end First

/-! ## One attribute -/

namespace Claims

/-- The function has an owner. -/
def TakesFunction (c : Claims) (f : String) : Prop :=
  ∃ owner, (f, owner) ∈ c.functions

end Claims

namespace Resolved

variable {r : Resolved} {s : Settings} {c : Claims} {a : Attribute} {d : Definition r} {f : String}

theorem outcome_attr_eq_emitted_iff :
    outcome s c (.attr a) = .emitted d ↔
      r.definition? s (.attr a) = some d ∧ ¬ c.TakesFunction a.decoder := by
  rw [outcome_eq_emitted_iff]
  refine and_congr_right fun code => ?_
  rcases names_of_definition? code with ⟨types, functions⟩
  simp only [Claims.Free, Claims.Untaken, types, functions, definedTypes, definedFunctions,
    List.not_mem_nil, List.forall_mem_singleton, Claims.TakesFunction, not_exists, false_imp_iff,
    implies_true, true_and]

/-- After an attribute with code the name of its decoder is taken, by it or by an earlier owner. -/
theorem takesFunction_claimsAfter :
    (claimsAfter c (.attr a) (outcome s c (.attr a) : Outcome r)).TakesFunction f ↔
      c.TakesFunction f ∨ (r.HasCode s (.attr a) ∧ f = a.decoder) := by
  cases ho : (outcome s c (.attr a) : Outcome r) with
  | nothing =>
      simp [claimsAfter, outcome_eq_nothing_iff.1 ho]
  | skipped record =>
      rcases outcome_eq_skipped_iff.1 ho with ⟨d, code, -⟩
      -- With its name free the attribute would have been emitted.
      have taken : c.TakesFunction a.decoder := by
        by_contra free
        rw [outcome_attr_eq_emitted_iff.2 ⟨code, free⟩] at ho
        cases ho
      simp only [claimsAfter, iff_self_or]
      rintro ⟨-, rfl⟩
      exact taken
  | emitted d =>
      have code := (outcome_attr_eq_emitted_iff.1 ho).1
      have hasCode : r.HasCode s (.attr a) := isSome_definition?_iff.1 (by rw [code]; rfl)
      simp only [claimsAfter, Claims.TakesFunction, Claims.take, Claims.mem_give_iff,
        (names_of_definition? code).2, definedFunctions, List.mem_singleton, exists_or, hasCode,
        exists_and_left, exists_eq, and_true, true_and]
      exact or_comm

/-- The attribute is emitted iff it has code and the name of its decoder has no owner. -/
theorem isSome_outcome_attr_iff :
    (outcome s c (.attr a) : Outcome r).definition?.isSome = true ↔
      r.HasCode s (.attr a) ∧ ¬ c.TakesFunction a.decoder := by
  constructor
  · intro emitted
    rcases exists_eq_emitted emitted with ⟨d, ho⟩
    rcases outcome_attr_eq_emitted_iff.1 ho with ⟨code, free⟩
    exact ⟨isSome_definition?_iff.1 (by rw [code]; rfl), free⟩
  · rintro ⟨code, free⟩
    rcases Option.isSome_iff_exists.1 (isSome_definition?_iff.2 code) with ⟨d, code⟩
    rw [outcome_attr_eq_emitted_iff.2 ⟨code, free⟩]
    rfl

/-! ## Attributes in a row -/

variable {attrs before : List Attribute} {defined : List String} {x : Attribute}

/-- The attributes are emitted that have code and are the first with code and their decoder's name. -/
theorem mem_outcomesFrom_attr_iff :
    (.attr a, .emitted d) ∈ outcomesFrom s c (attrs.map .attr) ↔
      ∃ before after, attrs = before ++ a :: after ∧ r.definition? s (.attr a) = some d ∧
        ¬ c.TakesFunction a.decoder ∧
          ∀ b ∈ before, r.HasCode s (.attr b) → b.decoder ≠ a.decoder := by
  -- The taken names are general, since each attribute with code adds one.
  induction attrs generalizing c with
  | nil => simp [outcomesFrom]
  | cons x attrs ih =>
      rw [List.map_cons, outcomesFrom, List.mem_cons, ih]
      simp only [takesFunction_claimsAfter, not_or, not_and, Prod.mk.injEq, Item.attr.injEq]
      constructor
      · rintro (⟨rfl, emitted⟩ | ⟨before, after, rfl, code, ⟨free, other⟩, earlier⟩)
        · rcases outcome_attr_eq_emitted_iff.1 emitted.symm with ⟨code, free⟩
          exact ⟨[], attrs, rfl, code, free, fun b hb => absurd hb List.not_mem_nil⟩
        · refine ⟨x :: before, after, rfl, code, free, List.forall_mem_cons.2 ⟨?_, earlier⟩⟩
          exact fun hx same => other hx same.symm
      · rintro ⟨before, after, split, code, free, earlier⟩
        cases before with
        | nil =>
            cases split
            exact .inl ⟨rfl, (outcome_attr_eq_emitted_iff.2 ⟨code, free⟩).symm⟩
        | cons y before =>
            cases split
            rcases List.forall_mem_cons.1 earlier with ⟨head, earlier⟩
            exact .inr ⟨before, after, rfl, code, ⟨free, fun hx same => head hx same.symm⟩,
              earlier⟩

/-- The decoder of `a` is defined already, or by an attribute up to `a`. -/
def ReachedFrom (r : Resolved) (s : Settings) (c : Claims) (defined : List String)
    (before : List Attribute) (a : Attribute) : Prop :=
  a.decoder ∈ defined ∨ ¬ c.TakesFunction a.decoder ∧
    ∃ b ∈ before ++ [a], r.HasCode s (.attr b) ∧ b.decoder = a.decoder

/-- The decoders that are defined after an attribute. -/
def definedAfter (defined : List String) (x : Attribute) (o : Outcome r) : List String :=
  if o.definition?.isSome then x.decoder :: defined else defined

theorem mem_definedAfter_iff :
    f ∈ definedAfter defined x (outcome s c (.attr x) : Outcome r) ↔
      f ∈ defined ∨ (r.HasCode s (.attr x) ∧ ¬ c.TakesFunction x.decoder) ∧ f = x.decoder := by
  rw [← isSome_outcome_attr_iff, definedAfter]
  split
  · next emitted => simp [emitted, or_comm]
  · next lost => simp [lost]

theorem reachedFrom_nil_iff :
    r.ReachedFrom s c defined [] x ↔
      x.decoder ∈ definedAfter defined x (outcome s c (.attr x) : Outcome r) := by
  rw [mem_definedAfter_iff]
  simp [ReachedFrom, and_comm]

theorem reachedFrom_cons_iff :
    r.ReachedFrom s c defined (x :: before) a ↔
      r.ReachedFrom s (claimsAfter c (.attr x) (outcome s c (.attr x) : Outcome r))
        (definedAfter defined x (outcome s c (.attr x) : Outcome r)) before a := by
  simp only [ReachedFrom, mem_definedAfter_iff, takesFunction_claimsAfter, List.cons_append,
    List.mem_cons, exists_eq_or_imp]
  -- What is left is a case on whether `x` has code and the decoder of `a`.
  grind

theorem routedFrom_cons {rest : List (Item × Outcome r)} {o : Outcome r} :
    r.routedFrom defined ((.attr x, o) :: rest) =
      if x.decoder ∈ definedAfter defined x o then
        x :: r.routedFrom (definedAfter defined x o) rest
      else r.routedFrom (definedAfter defined x o) rest :=
  rfl

/-- The attributes that may be routed are those that are reached at their place. -/
theorem find?_routedFrom_eq_some_iff {p : Attribute → Bool} :
    (r.routedFrom defined (outcomesFrom s c (attrs.map .attr))).find? p = some a ↔
      FirstWith (fun before b => p b = true ∧ r.ReachedFrom s c defined before b) attrs a := by
  -- Both the taken and the defined names are general, since each attribute may add to them.
  induction attrs generalizing c defined with
  | nil => simp [outcomesFrom, routedFrom, not_firstWith_nil]
  | cons x attrs ih =>
      rw [List.map_cons, outcomesFrom, routedFrom_cons, firstWith_cons_iff]
      simp only [reachedFrom_cons_iff, reachedFrom_nil_iff, ← ih]
      split
      · next reached =>
        cases hx : p x <;> simp [hx, reached, eq_comm]
      · next lost => simp [lost]

/-! ## The attributes among the items -/

/-- No item of the list is an attribute. -/
def NoAttributes (outcomes : List (Item × Outcome r)) : Prop :=
  ∀ p ∈ outcomes, ∀ a, p.1 ≠ .attr a

theorem routedFrom_of_noAttributes {outcomes rest : List (Item × Outcome r)}
    (none : NoAttributes outcomes) :
    r.routedFrom defined (outcomes ++ rest) = r.routedFrom defined rest := by
  induction outcomes with
  | nil => rfl
  | cons p outcomes ih =>
      rcases p with ⟨i, o⟩
      rcases List.forall_mem_cons.1 none with ⟨head, none⟩
      rw [List.cons_append, ← ih none]
      cases i with
      | attr a => exact (head a rfl).elim
      | enum e => rfl
      | bitmap b => rfl
      | struct d => rfl
      | command c => rfl
      | response p => rfl
      | event e => rfl

theorem routedFrom_append {outcomes rest : List (Item × Outcome r)} (none : NoAttributes rest) :
    r.routedFrom defined (outcomes ++ rest) = r.routedFrom defined outcomes := by
  induction outcomes generalizing defined with
  | nil =>
      have alone : r.routedFrom defined (rest ++ []) = r.routedFrom defined [] :=
        routedFrom_of_noAttributes none
      rwa [List.append_nil] at alone
  | cons p outcomes ih =>
      rcases p with ⟨i, o⟩
      cases i with
      | attr a =>
          rw [List.cons_append, routedFrom_cons, routedFrom_cons, ih]
      | enum e => exact ih
      | bitmap b => exact ih
      | struct d => exact ih
      | command c => exact ih
      | response p => exact ih
      | event e => exact ih

theorem outcomesFrom_append (front back : List Item) :
    (outcomesFrom s c (front ++ back) : List (Item × Outcome r)) =
      outcomesFrom s c front ++
        outcomesFrom s (claimsOver c (outcomesFrom s c front : List (Item × Outcome r))) back := by
  induction front generalizing c with
  | nil => rfl
  | cons i front ih =>
      rw [List.cons_append, outcomesFrom, ih, outcomesFrom, claimsOver, List.cons_append]

theorem encoder_ne_decoder (command : Command) (a : Attribute) : command.encoder ≠ a.decoder := by
  intro same
  have front := congrArg (fun name => name.toList.head?) same
  simp [Command.encoder, Attribute.decoder] at front

section Members

variable {items : List Item} {i : Item} {o : Outcome r}

theorem mem_of_mem_outcomesFrom (h : (i, o) ∈ outcomesFrom s c items) : i ∈ items := by
  have items : (outcomesFrom s c items : List (Item × Outcome r)).map Prod.fst = items :=
    fst_outcomesFrom
  rw [← items]
  exact List.mem_map_of_mem h

theorem definition?_of_mem_outcomesFrom (h : (i, .emitted d) ∈ outcomesFrom s c items) :
    r.definition? s i = some d := by
  induction items generalizing c with
  | nil => cases h
  | cons j items ih =>
      rcases List.mem_cons.1 h with same | h
      · rcases Prod.mk.inj same with ⟨rfl, emitted⟩
        exact (outcome_eq_emitted_iff.1 emitted.symm).1
      · exact ih h

theorem noAttributes_outcomesFrom (none : ∀ i ∈ items, i.kind ≠ .attr) :
    NoAttributes (outcomesFrom s c items : List (Item × Outcome r)) := by
  rintro ⟨i, o⟩ hp a rfl
  exact none (.attr a) (mem_of_mem_outcomesFrom hp) rfl

end Members

end Resolved

namespace Cluster

/-- The items in front of the attributes. -/
def itemsBeforeAttributes (c : Cluster) : List Item :=
  c.enums.toList.map .enum ++ c.bitmaps.toList.map .bitmap ++ c.structs.toList.map .struct ++
    c.commands.map .command

/-- The items behind the attributes. -/
def itemsAfterAttributes (c : Cluster) : List Item :=
  c.responses.map .response ++ c.events.map .event

theorem items_eq_append_attributes (c : Cluster) :
    c.items = c.itemsBeforeAttributes ++ (c.attributes.map .attr ++ c.itemsAfterAttributes) := by
  simp only [items, itemsBeforeAttributes, itemsAfterAttributes, List.append_assoc]

end Cluster

namespace Resolved

variable (r : Resolved) (s : Settings)

/-- The names that are taken when the first attribute comes. -/
def claimsBeforeAttributes : Claims :=
  claimsOver r.initialClaims
    (outcomesFrom s r.initialClaims r.cluster.itemsBeforeAttributes : List (Item × Outcome r))

def attributeOutcomes : List (Item × Outcome r) :=
  outcomesFrom s (r.claimsBeforeAttributes s) (r.cluster.attributes.map .attr)

theorem outcomes_eq_append :
    r.outcomes s = outcomesFrom s r.initialClaims r.cluster.itemsBeforeAttributes ++
      (r.attributeOutcomes s ++
        outcomesFrom s (claimsOver (r.claimsBeforeAttributes s) (r.attributeOutcomes s))
          r.cluster.itemsAfterAttributes) := by
  rw [outcomes, Cluster.items_eq_append_attributes, outcomesFrom_append, outcomesFrom_append]
  rfl

theorem kind_of_mem_itemsBeforeAttributes {c : Cluster} :
    ∀ i ∈ c.itemsBeforeAttributes, i.kind ≠ .attr := by
  simp [Cluster.itemsBeforeAttributes, or_imp, forall_and, Item.kind]

theorem kind_of_mem_itemsAfterAttributes {c : Cluster} :
    ∀ i ∈ c.itemsAfterAttributes, i.kind ≠ .attr := by
  simp [Cluster.itemsAfterAttributes, or_imp, forall_and, Item.kind]

theorem routedAttributes_eq : r.routedAttributes s = r.routedFrom [] (r.attributeOutcomes s) := by
  rw [routedAttributes, outcomes_eq_append,
    routedFrom_of_noAttributes (noAttributes_outcomesFrom kind_of_mem_itemsBeforeAttributes),
    routedFrom_append (noAttributes_outcomesFrom kind_of_mem_itemsAfterAttributes)]

variable {r s} {a : Attribute} {d : Definition r} {before : List Attribute}

/-- Of the names of decoders only the reserved ones are taken. -/
theorem takesFunction_claimsBeforeAttributes_iff :
    (r.claimsBeforeAttributes s).TakesFunction a.decoder ↔ a.decoder ∈ r.reservedFunctions := by
  simp only [Claims.TakesFunction, claimsBeforeAttributes, mem_functions_initialClaims_iff,
    HoldsFunction, exists_or, exists_and_left, exists_eq, and_true, or_iff_right_iff_imp]
  rintro ⟨owner, i, d, emitted, named, -⟩
  rw [(names_of_definition? (definition?_of_mem_outcomesFrom emitted)).2] at named
  have mem : i ∈ r.cluster.itemsBeforeAttributes := mem_of_mem_outcomesFrom emitted
  simp only [Cluster.itemsBeforeAttributes, List.mem_append, List.mem_map] at mem
  -- Types define no functions, and the functions of commands are named otherwise.
  rcases mem with ((⟨e, -, rfl⟩ | ⟨b, -, rfl⟩) | ⟨d, -, rfl⟩) | ⟨command, -, rfl⟩
  · cases named
  · cases named
  · cases named
  · exact (encoder_ne_decoder command a (List.mem_singleton.1 named).symm).elim

theorem mem_outcomes_attr_iff_mem {o : Outcome r} :
    (.attr a, o) ∈ r.outcomes s ↔ (.attr a, o) ∈ r.attributeOutcomes s := by
  have before := noAttributes_outcomesFrom (s := s) (c := r.initialClaims) (r := r)
    (kind_of_mem_itemsBeforeAttributes (c := r.cluster))
  have after := noAttributes_outcomesFrom (s := s) (r := r)
    (c := claimsOver (r.claimsBeforeAttributes s) (r.attributeOutcomes s))
    (kind_of_mem_itemsAfterAttributes (c := r.cluster))
  rw [outcomes_eq_append, List.mem_append, List.mem_append]
  constructor
  · rintro (mem | mem | mem)
    · exact (before _ mem a rfl).elim
    · exact mem
    · exact (after _ mem a rfl).elim
  · exact fun mem => .inr (.inl mem)

/-- An attribute is emitted iff it has code, the name of its decoder is not reserved and no attribute
before it has code and a decoder of this name. -/
theorem mem_outcomes_attr_iff :
    (.attr a, .emitted d) ∈ r.outcomes s ↔
      ∃ before after, r.cluster.attributes = before ++ a :: after ∧
        r.definition? s (.attr a) = some d ∧ a.decoder ∉ r.reservedFunctions ∧
          ∀ b ∈ before, r.HasCode s (.attr b) → b.decoder ≠ a.decoder := by
  rw [mem_outcomes_attr_iff_mem, attributeOutcomes, mem_outcomesFrom_attr_iff,
    takesFunction_claimsBeforeAttributes_iff]

/-- The decoder of `a` is defined, by `a` or by an attribute before it. -/
def Reached (r : Resolved) (s : Settings) (before : List Attribute) (a : Attribute) : Prop :=
  a.decoder ∉ r.reservedFunctions ∧
    ∃ b ∈ before ++ [a], r.HasCode s (.attr b) ∧ b.decoder = a.decoder

theorem find?_routedAttributes_eq_some_iff {p : Attribute → Bool} :
    (r.routedAttributes s).find? p = some a ↔
      FirstWith (fun before b => p b = true ∧ r.Reached s before b) r.cluster.attributes a := by
  rw [routedAttributes_eq, attributeOutcomes, find?_routedFrom_eq_some_iff]
  simp only [ReachedFrom, List.not_mem_nil, false_or, takesFunction_claimsBeforeAttributes_iff,
    Reached]

end Resolved
end ClusterCodec

import ClusterCodec.Reading.ElementTag
import Mathlib.Data.List.Basic
import Mathlib.Tactic.SplitIfs

/-!
# TagValues — the values of the attributes of a tag

- `value?`: the value of an attribute with its references resolved; `value?_of_attribute?`: a value
  that is read is this one.
- `Readable`: a tag whose keys are distinct and whose values can be resolved.
- `foldAttributes_component`: going through the attributes one by one, a part of the state that one
  key decides ends up with the value of that key, wherever it stands.
- `foldlM_eq_error`: a value that one key refuses is what the fold fails with.
-/

namespace ClusterCodec
namespace Reading

open Xml

/-! ## Values -/

/-- An attribute with its references resolved. -/
def resolved? (a : String × String) : Option (String × String) :=
  (resolve a.2).toOption.map fun value => (a.1, value)

/-- The attributes of a tag with their values. -/
def valuesOf (tag : Tag) : List (String × String) :=
  tag.attributes.filterMap resolved?

/-- The value of an attribute. -/
def value? (tag : Tag) (key : String) : Option String :=
  (valuesOf tag).lookup key

/-- The name of a declaration. -/
def declaredName (tag : Tag) : String :=
  (value? tag "name").getD unknownName

/-! ## Tags -/

/-- A tag whose attribute list is well formed and whose values can be resolved. -/
structure Readable (tag : Tag) : Prop where
  distinct : (tag.attributes.map Prod.fst).Nodup
  resolved : ∀ a ∈ tag.attributes, ∃ value, resolve a.2 = .ok value

section Tags

variable {tag : Tag} {σ γ : Type}

theorem resolved?_eq {a : String × String} {value : String} (resolves : resolve a.2 = .ok value) :
    resolved? a = some (a.1, value) := by
  rw [resolved?, resolves]
  rfl

theorem valueOf_eq {raw value : String} (resolves : resolve raw = .ok value) :
    valueOf raw = .ok value := by
  rw [valueOf, resolves]
  rfl

theorem attribute?_eq (readable : Readable tag) (key : String) :
    attribute? tag key = .ok (value? tag key) := by
  rcases readable with ⟨-, resolved⟩
  unfold attribute? value? valuesOf
  generalize tag.attributes = attributes at *
  induction attributes with
  | nil => rfl
  | cons a attributes ih =>
      rcases resolved a List.mem_cons_self with ⟨value, resolves⟩
      have others := ih fun b inside => resolved b (List.mem_cons_of_mem _ inside)
      rw [List.filterMap_cons_some (resolved?_eq resolves), List.lookup_cons, List.lookup_cons]
      cases key == a.1 with
      | false => exact others
      | true =>
          dsimp only
          rw [valueOf_eq resolves]
          rfl

/-- A value that is read is the one of the attribute, whatever the other attributes hold. -/
theorem value?_of_attribute? {key : String} {value : Option String}
    (read : attribute? tag key = .ok value) : value? tag key = value := by
  unfold attribute? at read
  unfold value? valuesOf
  generalize tag.attributes = attributes at *
  induction attributes with
  | nil =>
      cases read
      rfl
  | cons a attributes ih =>
      rw [List.lookup_cons] at read
      cases same : key == a.1 with
      | true =>
          rw [same] at read
          dsimp only [valueOf] at read
          cases resolves : resolve a.2 with
          | error fault =>
              rw [resolves] at read
              cases read
          | ok text =>
              rw [resolves] at read
              cases read
              rw [List.filterMap_cons_some (resolved?_eq resolves), List.lookup_cons, same]
      | false =>
          -- An attribute with another key is passed, be its value readable or not.
          rw [same] at read
          have others := ih read
          cases resolves : resolve a.2 with
          | error fault =>
              have unreadable : resolved? a = none := by
                rw [resolved?, resolves]
                rfl
              rw [List.filterMap_cons_none unreadable]
              exact others
          | ok text =>
              rw [List.filterMap_cons_some (resolved?_eq resolves), List.lookup_cons, same]
              exact others

theorem nameOf_eq (readable : Readable tag) : nameOf tag = .ok (declaredName tag) := by
  rw [nameOf, attribute?_eq readable]
  rfl

theorem declaredName_of_nameOf {name : String} (read : nameOf tag = .ok name) :
    declaredName tag = name := by
  unfold nameOf at read
  cases own : attribute? tag "name" with
  | error e =>
      rw [own] at read
      cases read
  | ok value =>
      rw [own] at read
      cases read
      rw [declaredName, value?_of_attribute? own]

theorem foldAttributes_eq (readable : Readable tag) (init : σ)
    (step : σ → String → String → Except ReadError σ) :
    foldAttributes tag init step = (valuesOf tag).foldlM (fun s a => step s a.1 a.2) init := by
  rcases readable with ⟨-, resolved⟩
  unfold foldAttributes valuesOf
  generalize tag.attributes = attributes at *
  induction attributes generalizing init with
  | nil => rfl
  | cons a attributes ih =>
      rcases resolved a List.mem_cons_self with ⟨value, resolves⟩
      have others := fun init => ih init fun b inside => resolved b (List.mem_cons_of_mem _ inside)
      rw [List.filterMap_cons_some (resolved?_eq resolves), List.foldlM_cons, List.foldlM_cons]
      change (valueOf a.2 >>= step init a.1) >>= _ = _
      rw [valueOf_eq resolves]
      change step init a.1 value >>= _ = step init a.1 value >>= _
      exact congrArg _ (funext others)

theorem nodup_keys_valuesOf (readable : Readable tag) : ((valuesOf tag).map Prod.fst).Nodup := by
  refine List.Nodup.sublist ?_ readable.distinct
  unfold valuesOf
  induction tag.attributes with
  | nil => exact .slnil
  | cons a attributes ih =>
      cases same : resolved? a with
      | none =>
          rw [List.filterMap_cons_none same]
          exact .cons _ ih
      | some b =>
          have key : b.1 = a.1 := by
            rcases Option.map_eq_some_iff.1 same with ⟨value, -, rfl⟩
            rfl
          rw [List.filterMap_cons_some same, List.map_cons, key]
          exact .cons_cons _ ih

theorem getD_map_some (x : Option γ) : (x.map some).getD none = x := by
  cases x <;> rfl

/-- A part of the state that one key decides holds the value of that key in the end. -/
theorem component_eq {step : σ → String → String → Except ReadError σ} (get : σ → γ)
    (key : String) {put : String → γ}
    (decides : ∀ s k value s', step s k value = .ok s' →
      get s' = if k = key then put value else get s)
    {values : List (String × String)} (distinct : (values.map Prod.fst).Nodup) {s s' : σ}
    (folded : values.foldlM (fun s a => step s a.1 a.2) s = .ok s') :
    get s' = ((values.lookup key).map put).getD (get s) := by
  induction values generalizing s with
  | nil =>
      cases folded
      rfl
  | cons a values ih =>
      rw [List.foldlM_cons] at folded
      rw [List.map_cons, List.nodup_cons] at distinct
      cases first : step s a.1 a.2 with
      | error e =>
          rw [first] at folded
          cases folded
      | ok middle =>
          rw [first] at folded
          have step := decides s a.1 a.2 middle first
          have last := ih distinct.2 folded
          rw [List.lookup_cons]
          by_cases same : a.1 = key
          · -- The key does not come again, so what this step puts stays.
            have absent : values.lookup key = none := by
              rw [List.lookup_eq_none_iff]
              intro b inside
              simp only [ne_eq, bne_iff_ne]
              rintro rfl
              exact distinct.1 (same ▸ List.mem_map_of_mem inside)
            rw [if_pos same] at step
            rw [absent] at last
            rw [← same, BEq.rfl, last]
            exact step
          · have other : (key == a.1) = false := beq_eq_false_iff_ne.2 fun h => same h.symm
            rw [other, last, step, if_neg same]

/-- A part of the state that no step changes is the same in the end. -/
theorem preserved_eq {step : σ → String → String → Except ReadError σ} (get : σ → γ)
    (keeps : ∀ s key value s', step s key value = .ok s' → get s' = get s)
    {values : List (String × String)} {s s' : σ}
    (folded : values.foldlM (fun s a => step s a.1 a.2) s = .ok s') : get s' = get s := by
  induction values generalizing s with
  | nil =>
      cases folded
      rfl
  | cons a values ih =>
      rw [List.foldlM_cons] at folded
      cases first : step s a.1 a.2 with
      | error e =>
          rw [first] at folded
          cases folded
      | ok middle =>
          rw [first] at folded
          exact (ih folded).trans (keeps s a.1 a.2 middle first)

theorem lookup_eq_some {values : List (String × String)} (distinct : (values.map Prod.fst).Nodup)
    {key value : String} (inside : (key, value) ∈ values) : values.lookup key = some value := by
  induction values with
  | nil => cases inside
  | cons a values ih =>
      rw [List.map_cons, List.nodup_cons] at distinct
      rw [List.lookup_cons]
      rcases List.mem_cons.1 inside with rfl | later
      · rw [BEq.rfl]
      · have other : (key == a.1) = false := by
          refine beq_eq_false_iff_ne.2 ?_
          rintro rfl
          exact distinct.1 (List.mem_map.2 ⟨_, later, rfl⟩)
        rw [other]
        exact ih distinct.2 later

/-- Where one key has a value that fails and no other key fails, the fold fails with that value. -/
theorem foldlM_eq_error {step : σ → String → String → Except ReadError σ} {key value : String}
    {error : ReadError} (fails : ∀ s, step s key value = .error error)
    (total : ∀ s other value, other ≠ key → ∃ s', step s other value = .ok s')
    {values : List (String × String)} (declared : values.lookup key = some value) {s : σ} :
    values.foldlM (fun s a => step s a.1 a.2) s = .error error := by
  induction values generalizing s with
  | nil => cases declared
  | cons a values ih =>
      rw [List.lookup_cons] at declared
      rw [List.foldlM_cons]
      by_cases same : a.1 = key
      · rw [← same, BEq.rfl] at declared
        cases declared
        rw [same, fails]
        rfl
      · have other : (key == a.1) = false := beq_eq_false_iff_ne.2 fun h => same h.symm
        rw [other] at declared
        rcases total s a.1 a.2 same with ⟨middle, first⟩
        rw [first]
        exact ih declared

theorem exists_foldlM_eq {step : σ → String → String → Except ReadError σ}
    {values : List (String × String)}
    (total : ∀ a ∈ values, ∀ s, ∃ s', step s a.1 a.2 = .ok s') (s : σ) :
    ∃ s', values.foldlM (fun s a => step s a.1 a.2) s = .ok s' := by
  induction values generalizing s with
  | nil => exact ⟨s, rfl⟩
  | cons a values ih =>
      rcases total a List.mem_cons_self s with ⟨middle, first⟩
      rcases ih (fun b inside => total b (List.mem_cons_of_mem _ inside)) middle with ⟨s', last⟩
      refine ⟨s', ?_⟩
      rw [List.foldlM_cons, first]
      exact last

/-- A part of the state that one attribute decides holds its value in the end. -/
theorem foldAttributes_component (readable : Readable tag)
    {step : σ → String → String → Except ReadError σ} (get : σ → γ) (key : String)
    {put : String → γ}
    (decides : ∀ s k value s', step s k value = .ok s' →
      get s' = if k = key then put value else get s)
    {s s' : σ} (folded : foldAttributes tag s step = .ok s') :
    get s' = ((value? tag key).map put).getD (get s) := by
  rw [foldAttributes_eq readable] at folded
  exact component_eq get key decides (nodup_keys_valuesOf readable) folded

theorem foldAttributes_preserved (readable : Readable tag)
    {step : σ → String → String → Except ReadError σ} (get : σ → γ)
    (keeps : ∀ s key value s', step s key value = .ok s' → get s' = get s) {s s' : σ}
    (folded : foldAttributes tag s step = .ok s') : get s' = get s := by
  rw [foldAttributes_eq readable] at folded
  exact preserved_eq get keeps folded

theorem exists_foldAttributes_eq (readable : Readable tag)
    {step : σ → String → String → Except ReadError σ}
    (total : ∀ s key value, value? tag key = some value → ∃ s', step s key value = .ok s') (s : σ) :
    ∃ s', foldAttributes tag s step = .ok s' := by
  rw [foldAttributes_eq readable]
  refine exists_foldlM_eq ?_ s
  intro a inside s
  exact total s a.1 a.2 (lookup_eq_some (nodup_keys_valuesOf readable) inside)

end Tags

end Reading
end ClusterCodec

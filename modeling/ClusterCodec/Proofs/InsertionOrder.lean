import ClusterCodec.Schema.SymbolTable
import Mathlib.Data.Finset.Card

/-!
# InsertionOrder — a symbol table is the ordered map of its insertions

- `lastNamed?`: the last entry of a sequence that bears a name.
- `Records`: a table has the names of a sequence in the order in which they first appear in it, and
  finds the last entry of each.
- `Records.insert`, `Records.foldl_insert`: one more insertion keeps this up, and so does a run.
- `OrderedMap`, `orderedMap_insertions`: what the views of the table say about the sequence.
-/

namespace ClusterCodec
namespace SymbolTable

variable {α : Type} [Named α]

/-! ## Names in order of their first appearance -/

section Names

variable {names : List String} {name : String}

theorem eraseDups_concat_of_mem (known : name ∈ names) :
    (names ++ [name]).eraseDups = names.eraseDups := by
  have nothing : [name].removeAll names = [] := by
    simp [List.removeAll, known]
  rw [List.eraseDups_append, nothing, List.eraseDups_nil, List.append_nil]

theorem eraseDups_concat_of_notMem (fresh : name ∉ names) :
    (names ++ [name]).eraseDups = names.eraseDups ++ [name] := by
  have kept : [name].removeAll names = [name] := by
    simp [List.removeAll, fresh]
  rw [List.eraseDups_append, kept]
  rfl

theorem eraseDups_of_nodup (distinct : names.Nodup) : names.eraseDups = names := by
  induction names using List.reverseRecOn with
  | nil => rfl
  | append_singleton names name ih =>
      have split := List.nodup_append.1 distinct
      have fresh : name ∉ names := fun known => split.2.2 name known name List.mem_cons_self rfl
      rw [eraseDups_concat_of_notMem fresh, ih split.1]

end Names

/-! ## The last entry of a name -/

/-- The entry that was inserted last among those with a name. -/
def lastNamed? (items : List α) (name : String) : Option α :=
  items.reverse.find? (Named.name · == name)

section Last

variable {items : List α} {item a : α} {name : String}

theorem lastNamed?_concat :
    lastNamed? (items ++ [item]) name =
      if name = Named.name item then some item else lastNamed? items name := by
  rw [lastNamed?, List.reverse_append, List.reverse_singleton, List.singleton_append,
    List.find?_cons]
  split
  · next same =>
      rw [if_pos (beq_iff_eq.1 same).symm]
  · next other =>
      rw [if_neg fun same => beq_eq_false_iff_ne.1 other same.symm]
      rfl

theorem lastNamed?_eq_none_iff : lastNamed? items name = none ↔ name ∉ items.map Named.name := by
  rw [lastNamed?, List.find?_eq_none, List.mem_map, not_exists]
  refine forall_congr' fun a => ?_
  rw [List.mem_reverse, beq_iff_eq, not_and]

/-- The entry bears the name, and none after it does. -/
theorem lastNamed?_eq_some_iff :
    lastNamed? items name = some a ↔
      ∃ before after, items = before ++ a :: after ∧ Named.name a = name ∧
        ∀ b ∈ after, Named.name b ≠ name := by
  rw [lastNamed?, List.find?_eq_some_iff_append]
  constructor
  · rintro ⟨named, after, before, split, others⟩
    refine ⟨before.reverse, after.reverse, ?_, beq_iff_eq.1 named, fun b listed same => ?_⟩
    · have mirrored := congrArg List.reverse split
      simpa using mirrored
    · have other := others b (List.mem_reverse.1 listed)
      simp [same] at other
  · rintro ⟨before, after, rfl, named, others⟩
    refine ⟨beq_iff_eq.2 named, after.reverse, before.reverse, by simp, fun b listed => ?_⟩
    have other := others b (List.mem_reverse.1 listed)
    simpa using other

end Last

/-! ## The tables of a sequence -/

theorem names_insert_of_mem {t : SymbolTable α} {item : α} (known : Named.name item ∈ t.names) :
    (t.insert item).names = t.names := by
  cases found : t.index? (Named.name item) with
  | none => exact absurd known (index?_eq_none_iff.1 found)
  | some i =>
      rw [names, toList_insert_of_index? found]
      exact names_set ((t.indexed _ i).1 found)

theorem names_insert_of_notMem {t : SymbolTable α} {item : α} (fresh : Named.name item ∉ t.names) :
    (t.insert item).names = t.names ++ [Named.name item] := by
  rw [names, toList_insert_of_fresh (index?_eq_none_iff.2 fresh), List.map_append]
  rfl

/-- A look-up by the names of a table gives its entries. -/
theorem map_get?_names (t : SymbolTable α) : t.names.map t.get? = t.toList.map some := by
  rw [names, List.map_map]
  exact List.map_congr_left fun a listed => get?_eq_some_iff.2 ⟨listed, rfl⟩

/-- The names in the order in which they first appear, and for each one the last entry of it. -/
structure Records (items : List α) (t : SymbolTable α) : Prop where
  names : t.names = (items.map Named.name).eraseDups
  found : ∀ name, t.get? name = lastNamed? items name

namespace Records

variable {items : List α} {t : SymbolTable α}

theorem empty : Records [] (∅ : SymbolTable α) where
  names := rfl
  found _ := rfl

/-- Every table records its own entries. -/
theorem self (t : SymbolTable α) : Records t.toList t where
  names := (eraseDups_of_nodup t.distinct).symm
  found name := by
    ext a
    rw [get?_eq_some_iff, lastNamed?_eq_some_iff]
    constructor
    · rintro ⟨listed, named⟩
      obtain ⟨before, after, split⟩ := List.append_of_mem listed
      refine ⟨before, after, split, named, fun b inAfter same => ?_⟩
      -- A second entry of the name would break that names are distinct.
      have distinct := t.distinct
      rw [split, List.map_append, List.map_cons] at distinct
      have alone := (List.nodup_cons.1 (List.nodup_append.1 distinct).2.1).1
      exact alone (List.mem_map.2 ⟨b, inAfter, same.trans named.symm⟩)
    · rintro ⟨before, after, split, named, -⟩
      exact ⟨split ▸ List.mem_append_right before List.mem_cons_self, named⟩

theorem mem_names_iff (h : Records items t) {name : String} :
    name ∈ t.names ↔ name ∈ items.map Named.name := by
  rw [h.names, List.mem_eraseDups]

theorem insert (h : Records items t) (item : α) : Records (items ++ [item]) (t.insert item) where
  names := by
    rw [List.map_append, List.map_singleton]
    -- The table knows the names of the sequence, so both sides make the same choice.
    by_cases known : Named.name item ∈ items.map Named.name
    · rw [names_insert_of_mem (h.mem_names_iff.2 known), eraseDups_concat_of_mem known, h.names]
    · have fresh : Named.name item ∉ t.names := fun listed => known (h.mem_names_iff.1 listed)
      rw [names_insert_of_notMem fresh, eraseDups_concat_of_notMem known, h.names]
  found name := by
    rw [get?_insert, lastNamed?_concat, h.found]

theorem foldl_insert (h : Records items t) (more : List α) :
    Records (items ++ more) (more.foldl SymbolTable.insert t) := by
  -- The entries inserted so far move from the run to the sequence that the table records.
  induction more generalizing items t with
  | nil =>
      rw [List.append_nil]
      exact h
  | cons item more ih =>
      have next := ih (h.insert item)
      rw [List.append_assoc] at next
      exact next

theorem toList_map_some (h : Records items t) :
    t.toList.map some = (items.map Named.name).eraseDups.map (lastNamed? items) := by
  rw [← map_get?_names, h.names]
  exact List.map_congr_left fun name _ => h.found name

end Records

theorem records_ofList (items : List α) : Records items (ofList items) :=
  Records.empty.foldl_insert items

/-! ## Ordered maps -/

/-- What a table says about the sequence of entries that were inserted. -/
structure OrderedMap (items : List α) (t : SymbolTable α) : Prop where
  /-- Each name once, in the order of its first insertion. -/
  names : t.toList.map Named.name = (items.map Named.name).eraseDups
  once : (t.toList.map Named.name).Nodup
  /-- The entries are the last ones inserted under their names. -/
  entries : t.toList.map some = (items.map Named.name).eraseDups.map (lastNamed? items)
  found : ∀ name, t.get? name = lastNamed? items name
  missing : ∀ name, t.get? name = none ↔ name ∉ items.map Named.name
  contained : ∀ name, t.contains name = (t.get? name).isSome
  counted : t.size = (items.map Named.name).toFinset.card
  /-- A name has a position iff the entry there bears the name. -/
  indexed : ∀ name i, t.index? name = some i ↔ ∃ a, t.toList[i]? = some a ∧ Named.name a = name
  bounded : ∀ name i, t.index? name = some i → i < t.size

theorem Records.orderedMap {items : List α} {t : SymbolTable α} (h : Records items t) :
    OrderedMap items t where
  names := h.names
  once := t.distinct
  entries := h.toList_map_some
  found := h.found
  missing name := by
    rw [h.found, lastNamed?_eq_none_iff]
  contained name := by
    rw [Bool.eq_iff_iff, contains_eq_true_iff, Option.isSome_iff_ne_none, ne_eq, get?_eq_none_iff,
      Classical.not_not]
  counted := by
    have same : (items.map Named.name).toFinset = t.names.toFinset := by
      ext name
      rw [List.mem_toFinset, List.mem_toFinset, h.mem_names_iff]
    calc
      t.size = t.names.length := (List.length_map Named.name).symm
      _ = t.names.toFinset.card := (List.toFinset_card_of_nodup t.distinct).symm
      _ = (items.map Named.name).toFinset.card := by
        rw [same]
  indexed name i := index?_eq_some_iff
  bounded name i := lt_size_of_index?

/-- After any insertions, into a new table or into one with entries, the table is the ordered map of
the entries before and of those inserted. -/
theorem orderedMap_insertions (items : List α) :
    OrderedMap items (items.foldl insert ∅) ∧ OrderedMap items (ofList items) ∧
      ∀ t : SymbolTable α, OrderedMap (t.toList ++ items) (items.foldl insert t) := by
  have started : Records items (items.foldl insert ∅) := Records.empty.foldl_insert items
  exact ⟨started.orderedMap, (records_ofList items).orderedMap, fun t =>
    ((Records.self t).foldl_insert items).orderedMap⟩

end SymbolTable
end ClusterCodec

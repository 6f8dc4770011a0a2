/-!
# SymbolTable — declarations by name, in declaration order

- `Named`: what has a name.
- `SymbolTable`: a list of named entries and the position of each name in it.
- `distinct`: no two entries have the same name; `ext`: the entries determine the positions.
- `insert`: appends a new name; replaces the entry of a known one in its place.
- `index?`, `get?`, `contains`, `toList`, `size`: the views of a table.
- `get?_eq_some_iff`, `get?_insert`: what a look-up finds.
- `get?_eq_of_perm`, `perm_of_get?_eq`: tables that answer alike are reorderings of each other.
-/

namespace ClusterCodec

class Named (α : Type) where
  name : α → String

/-- Named entries in order, and for each name the position of the entry that bears it. -/
structure SymbolTable (α : Type) [Named α] where
  toList : List α
  index? : String → Option Nat
  indexed : ∀ name i, index? name = some i ↔ (toList.map Named.name)[i]? = some name

namespace SymbolTable

variable {α : Type} [Named α]

def empty : SymbolTable α :=
  ⟨[], fun _ => none, fun _ _ => by simp⟩

instance : EmptyCollection (SymbolTable α) := ⟨empty⟩
instance : Inhabited (SymbolTable α) := ⟨empty⟩

def names (t : SymbolTable α) : List String :=
  t.toList.map Named.name

/-- The entry with a name. -/
def get? (t : SymbolTable α) (name : String) : Option α :=
  (t.index? name).bind (t.toList[·]?)

def contains (t : SymbolTable α) (name : String) : Bool :=
  (t.index? name).isSome

def size (t : SymbolTable α) : Nat :=
  t.toList.length

def isEmpty (t : SymbolTable α) : Bool :=
  t.toList.isEmpty

/-! ## Positions -/

theorem index?_eq_some_iff {t : SymbolTable α} {name : String} {i : Nat} :
    t.index? name = some i ↔ ∃ a, t.toList[i]? = some a ∧ Named.name a = name := by
  rw [t.indexed, List.getElem?_map, Option.map_eq_some_iff]

/-- A position of the table holds an entry with the name that it was looked up by. -/
theorem lt_size_of_index? {t : SymbolTable α} {name : String} {i : Nat}
    (found : t.index? name = some i) : i < t.size := by
  obtain ⟨a, there, -⟩ := index?_eq_some_iff.1 found
  exact (List.getElem?_eq_some_iff.1 there).1

theorem index?_eq_none_iff {t : SymbolTable α} {name : String} :
    t.index? name = none ↔ name ∉ t.names := by
  rw [Option.eq_none_iff_forall_ne_some, names, List.mem_iff_getElem?, not_exists]
  exact forall_congr' fun i => not_congr (t.indexed name i)

theorem contains_eq_true_iff {t : SymbolTable α} {name : String} :
    t.contains name = true ↔ name ∈ t.names := by
  rw [contains, Option.isSome_iff_ne_none, ne_eq, index?_eq_none_iff, Classical.not_not]

/-- A name has one position, so that no two entries share it. -/
theorem distinct (t : SymbolTable α) : (t.toList.map Named.name).Nodup := by
  refine List.pairwise_iff_getElem.2 fun i j first second lt same => ?_
  have atFirst := (t.indexed _ i).2 (List.getElem?_eq_getElem first)
  have atSecond := (t.indexed _ j).2 (List.getElem?_eq_getElem second)
  rw [same, atSecond] at atFirst
  exact Nat.ne_of_gt lt (Option.some.inj atFirst)

/-- The entries determine the positions. -/
@[ext]
theorem ext {t u : SymbolTable α} (entries : t.toList = u.toList) : t = u := by
  have positions : t.index? = u.index? := by
    funext name
    ext i
    rw [t.indexed, u.indexed, entries]
  cases t
  cases u
  cases entries
  cases positions
  rfl

/-! ## Insertion -/

/-- The names stay as they are when an entry takes the place of one with the same name. -/
theorem names_set {entries : List α} {i : Nat} {item : α}
    (same : (entries.map Named.name)[i]? = some (Named.name item)) :
    (entries.set i item).map Named.name = entries.map Named.name := by
  obtain ⟨bound, there⟩ := List.getElem?_eq_some_iff.1 same
  rw [List.map_set, ← there, List.set_getElem_self]

/-- A new name takes the position behind the last one. -/
theorem indexed_append {entries : List α} {index? : String → Option Nat}
    (indexed : ∀ name i, index? name = some i ↔ (entries.map Named.name)[i]? = some name)
    {item : α} (fresh : index? (Named.name item) = none) (name : String) (i : Nat) :
    (if name = Named.name item then some entries.length else index? name) = some i ↔
      ((entries ++ [item]).map Named.name)[i]? = some name := by
  have absent : (entries.map Named.name)[i]? ≠ some (Named.name item) := by
    rw [ne_eq, ← indexed, fresh]
    exact nofun
  rw [List.map_append, List.getElem?_append, List.length_map]
  split
  · next same =>
    subst same
    grind
  · next other =>
    rw [indexed]
    grind

/-- Adds an entry at the end, or puts it in the place of the entry with its name. -/
def insert (t : SymbolTable α) (item : α) : SymbolTable α :=
  match known : t.index? (Named.name item) with
  | some i =>
    ⟨t.toList.set i item, t.index?, by
      rw [names_set ((t.indexed _ i).1 known)]
      exact t.indexed⟩
  | none =>
    ⟨t.toList ++ [item],
      fun name => if name = Named.name item then some t.toList.length else t.index? name,
      indexed_append t.indexed known⟩

theorem toList_insert_of_index? {t : SymbolTable α} {item : α} {i : Nat}
    (known : t.index? (Named.name item) = some i) :
    (t.insert item).toList = t.toList.set i item := by
  unfold insert
  split
  · next j found =>
    cases known.symm.trans found
    rfl
  · next fresh => cases known.symm.trans fresh

theorem toList_insert_of_fresh {t : SymbolTable α} {item : α}
    (fresh : t.index? (Named.name item) = none) :
    (t.insert item).toList = t.toList ++ [item] := by
  unfold insert
  split
  · next i known => cases fresh.symm.trans known
  · rfl

/-- The table after inserting the members of a list in order. -/
def ofList (items : List α) : SymbolTable α :=
  items.foldl insert empty

/-- Changes every entry by a function that keeps its name. -/
def mapEntries (t : SymbolTable α) (f : α → α) (keepsName : ∀ a, Named.name (f a) = Named.name a) :
    SymbolTable α :=
  ⟨t.toList.map f, t.index?, by
    have names : (t.toList.map f).map Named.name = t.toList.map Named.name := by
      rw [List.map_map]
      exact List.map_congr_left fun a _ => keepsName a
    rw [names]
    exact t.indexed⟩

/-! ## Look-up -/

theorem get?_eq_some {t : SymbolTable α} {name : String} {a : α} (h : t.get? name = some a) :
    a ∈ t.toList ∧ Named.name a = name := by
  obtain ⟨i, found, there⟩ := Option.bind_eq_some_iff.1 h
  obtain ⟨b, there', named⟩ := index?_eq_some_iff.1 found
  cases there.symm.trans there'
  exact ⟨List.mem_of_getElem? there, named⟩

theorem get?_eq_none_iff {t : SymbolTable α} {name : String} :
    t.get? name = none ↔ name ∉ t.names := by
  rw [← index?_eq_none_iff, get?]
  cases found : t.index? name with
  | none => simp
  | some i =>
    obtain ⟨a, there, -⟩ := index?_eq_some_iff.1 found
    simp [there]

/-- A name has one entry. -/
theorem eq_of_name_eq {t : SymbolTable α} {a b : α} (ha : a ∈ t.toList) (hb : b ∈ t.toList)
    (same : Named.name a = Named.name b) : a = b := by
  obtain ⟨i, atFirst⟩ := List.mem_iff_getElem?.1 ha
  obtain ⟨j, atSecond⟩ := List.mem_iff_getElem?.1 hb
  have first := index?_eq_some_iff.2 ⟨a, atFirst, same⟩
  have second := index?_eq_some_iff.2 ⟨b, atSecond, rfl⟩
  rw [first] at second
  cases second
  exact Option.some.inj (atFirst.symm.trans atSecond)

theorem get?_eq_some_iff {t : SymbolTable α} {name : String} {a : α} :
    t.get? name = some a ↔ a ∈ t.toList ∧ Named.name a = name := by
  refine ⟨get?_eq_some, fun ⟨mem, named⟩ => ?_⟩
  cases found : t.get? name with
  | none => exact (get?_eq_none_iff.1 found (named ▸ List.mem_map_of_mem mem)).elim
  | some b =>
    obtain ⟨memB, namedB⟩ := get?_eq_some found
    rw [eq_of_name_eq mem memB (named.trans namedB.symm)]

/-! ## Look-up after a change -/

theorem mapEntries_eq_self_iff {t : SymbolTable α} {f : α → α}
    {keepsName : ∀ a, Named.name (f a) = Named.name a} :
    t.mapEntries f keepsName = t ↔ ∀ a ∈ t.toList, f a = a := by
  have entries : t.toList.map f = t.toList ↔ ∀ a ∈ t.toList, f a = id a := by
    rw [← List.map_inj_left, List.map_id]
  rw [SymbolTable.ext_iff]
  exact entries

theorem mem_toList_insert {t : SymbolTable α} {item a : α} :
    a ∈ (t.insert item).toList ↔
      a = item ∨ a ∈ t.toList ∧ Named.name a ≠ Named.name item := by
  cases found : t.index? (Named.name item) with
  | none =>
    have fresh : Named.name item ∉ t.names := index?_eq_none_iff.1 found
    rw [toList_insert_of_fresh found, List.mem_append, List.mem_singleton]
    constructor
    · rintro (ha | rfl)
      · exact .inr ⟨ha, fun same => fresh (same ▸ List.mem_map_of_mem ha)⟩
      · exact .inl rfl
    · rintro (rfl | ⟨ha, -⟩)
      · exact .inr rfl
      · exact .inl ha
  | some i =>
    -- An entry stands at the place of `item` iff it bears the same name.
    have place {j : Nat} (there : t.toList[j]? = some a) :
        i = j ↔ Named.name a = Named.name item := by
      have its : t.index? (Named.name a) = some j := index?_eq_some_iff.2 ⟨a, there, rfl⟩
      constructor
      · rintro rfl
        obtain ⟨b, there', named⟩ := index?_eq_some_iff.1 found
        cases there.symm.trans there'
        exact named
      · intro same
        rw [same, found] at its
        exact Option.some.inj its
    have bound : i < t.toList.length := lt_size_of_index? found
    rw [toList_insert_of_index? found, List.mem_iff_getElem?]
    constructor
    · rintro ⟨j, there⟩
      rw [List.getElem?_set, if_pos bound] at there
      split at there
      · exact .inl (Option.some.inj there).symm
      · next other =>
        exact .inr ⟨List.mem_of_getElem? there, fun same => other ((place there).2 same)⟩
    · rintro (rfl | ⟨ha, other⟩)
      · exact ⟨i, List.getElem?_set_self bound⟩
      · obtain ⟨j, there⟩ := List.mem_iff_getElem?.1 ha
        refine ⟨j, ?_⟩
        rwa [List.getElem?_set_ne fun same => other ((place there).1 same)]

theorem get?_insert {t : SymbolTable α} {item : α} {name : String} :
    (t.insert item).get? name = if name = Named.name item then some item else t.get? name := by
  ext a
  rw [get?_eq_some_iff, mem_toList_insert]
  split
  · next same =>
    subst same
    constructor
    · rintro ⟨rfl | ⟨-, other⟩, named⟩
      · rfl
      · exact (other named).elim
    · rintro ⟨⟩
      exact ⟨.inl rfl, rfl⟩
  · next other =>
    rw [get?_eq_some_iff]
    constructor
    · rintro ⟨rfl | ⟨ha, -⟩, named⟩
      · exact (other named.symm).elim
      · exact ⟨ha, named⟩
    · rintro ⟨ha, rfl⟩
      exact ⟨.inr ⟨ha, other⟩, rfl⟩

/-! ## Order -/

theorem get?_eq_of_perm {t u : SymbolTable α} (h : t.toList.Perm u.toList) (name : String) :
    t.get? name = u.get? name := by
  ext a
  simp only [get?_eq_some_iff, h.mem_iff]

theorem nodup_toList (t : SymbolTable α) : t.toList.Nodup :=
  List.Pairwise.of_map Named.name (fun _ _ other same => other (congrArg Named.name same)) t.distinct

theorem perm_of_get?_eq {t u : SymbolTable α} (h : ∀ name, t.get? name = u.get? name) :
    t.toList.Perm u.toList := by
  refine (List.perm_ext_iff_of_nodup t.nodup_toList u.nodup_toList).2 fun a => ?_
  have found (t : SymbolTable α) : a ∈ t.toList ↔ t.get? (Named.name a) = some a := by
    rw [get?_eq_some_iff, and_iff_left rfl]
  rw [found, found, h]

end SymbolTable
end ClusterCodec

/-!
# FirstOfEach — the first entry of each key

- `keepFirst`: drops every entry whose key was there before.
- `nodup_keys_keepFirst`, `keepFirst_sublist`, `mem_keys_keepFirst_iff`: the keys that remain are
  distinct, the order stays, and no key is lost.
- `mem_keepFirst_iff`, `mem_keepFirst_iff_find?`: what remains is what has no entry of its key before
  it.
-/

namespace ClusterCodec

variable {α β : Type} [DecidableEq β]

/-- Drops every entry whose key is among those `seen` or was there before. -/
def keepFirstFrom (key : α → β) (seen : List β) : List α → List α
  | [] => []
  | a :: rest =>
    if key a ∈ seen then keepFirstFrom key seen rest
    else a :: keepFirstFrom key (key a :: seen) rest

def keepFirst (key : α → β) (l : List α) : List α :=
  keepFirstFrom key [] l

theorem keepFirstFrom_sublist (key : α → β) (seen : List β) (l : List α) :
    List.Sublist (keepFirstFrom key seen l) l := by
  induction l generalizing seen with
  | nil => exact .slnil
  | cons a l ih =>
    unfold keepFirstFrom
    split
    · exact .cons _ (ih seen)
    · exact .cons_cons _ (ih _)

theorem keepFirst_sublist (key : α → β) (l : List α) : List.Sublist (keepFirst key l) l :=
  keepFirstFrom_sublist key [] l

theorem key_not_mem_seen {key : α → β} {seen : List β} {l : List α} {a : α}
    (h : a ∈ keepFirstFrom key seen l) : key a ∉ seen := by
  induction l generalizing seen with
  | nil => simp [keepFirstFrom] at h
  | cons b l ih =>
    unfold keepFirstFrom at h
    split at h
    · exact ih h
    · next fresh =>
      rcases List.mem_cons.1 h with rfl | h
      · exact fresh
      · exact fun hs => ih h (.tail _ hs)

theorem nodup_keys_keepFirstFrom (key : α → β) (seen : List β) (l : List α) :
    ((keepFirstFrom key seen l).map key).Nodup := by
  induction l generalizing seen with
  | nil => exact List.nodup_nil
  | cons a l ih =>
    unfold keepFirstFrom
    split
    · exact ih seen
    · simp only [List.map_cons, List.nodup_cons]
      refine ⟨fun h => ?_, ih _⟩
      obtain ⟨b, hb, hab⟩ := List.mem_map.1 h
      exact key_not_mem_seen hb (hab ▸ .head _)

theorem nodup_keys_keepFirst (key : α → β) (l : List α) : ((keepFirst key l).map key).Nodup :=
  nodup_keys_keepFirstFrom key [] l

theorem mem_keys_keepFirstFrom_iff {key : α → β} {seen : List β} {l : List α} {b : β} :
    b ∈ (keepFirstFrom key seen l).map key ↔ b ∉ seen ∧ b ∈ l.map key := by
  induction l generalizing seen with
  | nil => simp [keepFirstFrom]
  | cons a l ih =>
    unfold keepFirstFrom
    split
    · next h =>
      rw [ih, List.map_cons, List.mem_cons]
      constructor
      · exact fun ⟨hs, hl⟩ => ⟨hs, .inr hl⟩
      · rintro ⟨hs, rfl | hl⟩
        · exact absurd h hs
        · exact ⟨hs, hl⟩
    · next h =>
      rw [List.map_cons, List.mem_cons, ih, List.map_cons, List.mem_cons, List.mem_cons]
      constructor
      · rintro (rfl | ⟨hs, hl⟩)
        · exact ⟨h, .inl rfl⟩
        · exact ⟨fun hb => hs (.inr hb), .inr hl⟩
      · rintro ⟨hs, rfl | hl⟩
        · exact .inl rfl
        · by_cases hb : b = key a
          · exact .inl hb
          · exact .inr ⟨by simp [hb, hs], hl⟩

theorem mem_keys_keepFirst_iff {key : α → β} {l : List α} {b : β} :
    b ∈ (keepFirst key l).map key ↔ b ∈ l.map key := by
  simp [keepFirst, mem_keys_keepFirstFrom_iff]

theorem exists_split_of_mem_keepFirstFrom {key : α → β} {seen : List β} {l : List α} {a : α}
    (h : a ∈ keepFirstFrom key seen l) :
    ∃ before after, l = before ++ a :: after ∧ ∀ b ∈ before, key b ≠ key a := by
  induction l generalizing seen with
  | nil =>
      cases h
  | cons c l ih =>
      -- Whether `c` is kept or passed, its key is seen from here on, and no seen key is kept again.
      unfold keepFirstFrom at h
      split at h
      · next known =>
          rcases ih h with ⟨before, after, rfl, first⟩
          refine ⟨c :: before, after, rfl, ?_⟩
          intro b hb
          rcases List.mem_cons.1 hb with rfl | hb
          · intro same
            exact key_not_mem_seen h (same ▸ known)
          · exact first b hb
      · rcases List.mem_cons.1 h with rfl | h
        · exact ⟨[], l, rfl, fun b hb => absurd hb List.not_mem_nil⟩
        · rcases ih h with ⟨before, after, rfl, first⟩
          refine ⟨c :: before, after, rfl, ?_⟩
          intro b hb
          rcases List.mem_cons.1 hb with rfl | hb
          · intro same
            exact key_not_mem_seen h (same ▸ .head _)
          · exact first b hb

theorem mem_keepFirstFrom_of_split {key : α → β} {seen : List β} {before after : List α} {a : α}
    (fresh : key a ∉ seen) (first : ∀ b ∈ before, key b ≠ key a) :
    a ∈ keepFirstFrom key seen (before ++ a :: after) := by
  induction before generalizing seen with
  | nil =>
      simp [keepFirstFrom, fresh]
  | cons c before ih =>
      have later : ∀ b ∈ before, key b ≠ key a := fun b hb => first b (.tail _ hb)
      rw [List.cons_append, keepFirstFrom]
      split
      · exact ih fresh later
      · refine .tail _ (ih ?_ later)
        intro hs
        rcases List.mem_cons.1 hs with same | hs
        · exact first c (.head _) same.symm
        · exact fresh hs

/-- An entry remains iff no entry before it has its key. -/
theorem mem_keepFirst_iff {key : α → β} {l : List α} {a : α} :
    a ∈ keepFirst key l ↔
      ∃ before after, l = before ++ a :: after ∧ ∀ b ∈ before, key b ≠ key a := by
  constructor
  · exact exists_split_of_mem_keepFirstFrom
  · rintro ⟨before, after, rfl, first⟩
    exact mem_keepFirstFrom_of_split List.not_mem_nil first

theorem mem_keepFirst_iff_find? {key : α → β} {l : List α} {a : α} :
    a ∈ keepFirst key l ↔ l.find? (fun b => decide (key b = key a)) = some a := by
  rw [mem_keepFirst_iff, List.find?_eq_some_iff_append]
  simp

end ClusterCodec

/-!
# Search — finding and replacing one text inside another

- `replaceAll`: every occurrence of a text, from left to right and without overlaps.
- `occursIn`: whether a text occurs at all; `occursIn_iff` says that it is an infix.
- `replaceAll_of_not_occursIn`: a text without an occurrence stays as it is.
- `Straddles`: an occurrence that begins in one text and ends in the next.
- `replaceAll_append`: where there is none, the two texts are rewritten on their own.
-/

namespace ClusterCodec
namespace Text

/-- `replaceAll` inside an occurrence of which `skip` characters are still to be passed. -/
def replaceFrom (target replacement : List Char) : Nat → List Char → List Char
  | _, [] => []
  | skip + 1, _ :: cs => replaceFrom target replacement skip cs
  | 0, c :: cs =>
    if target.isPrefixOf (c :: cs) then
      replacement ++ replaceFrom target replacement (target.length - 1) cs
    else c :: replaceFrom target replacement 0 cs

/-- Replaces the occurrences of a nonempty text, from left to right and without overlaps. -/
def replaceAll (target replacement cs : List Char) : List Char :=
  replaceFrom target replacement 0 cs

def occursIn (target : List Char) : List Char → Bool
  | [] => target.isEmpty
  | c :: cs => target.isPrefixOf (c :: cs) || occursIn target cs

/-! ## Occurrences -/

theorem occursIn_iff {part cs : List Char} : occursIn part cs = true ↔ part <:+: cs := by
  induction cs with
  | nil => rw [occursIn, List.isEmpty_iff, List.infix_nil]
  | cons c cs ih =>
      rw [occursIn, Bool.or_eq_true, List.isPrefixOf_iff_prefix, ih, List.infix_cons_iff]

variable {target replacement : List Char}

theorem replaceAll_of_not_occursIn {cs : List Char} (absent : occursIn target cs = false) :
    replaceAll target replacement cs = cs := by
  induction cs with
  | nil => rfl
  | cons c cs ih =>
      rw [occursIn, Bool.or_eq_false_iff] at absent
      rw [replaceAll, replaceFrom, if_neg (by rw [absent.1]; exact Bool.false_ne_true)]
      exact congrArg (c :: ·) (ih absent.2)

theorem replaceFrom_of_length (cs : List Char) :
    replaceFrom target replacement cs.length cs = [] := by
  induction cs with
  | nil => rfl
  | cons c cs ih => exact ih

theorem replaceAll_self (nonempty : target ≠ []) :
    replaceAll target replacement target = replacement := by
  cases target with
  | nil => exact absurd rfl nonempty
  | cons c cs =>
      have found : (c :: cs).isPrefixOf (c :: cs) = true :=
        List.isPrefixOf_iff_prefix.2 (List.prefix_refl _)
      rw [replaceAll, replaceFrom, if_pos found]
      change replacement ++ replaceFrom (c :: cs) replacement cs.length cs = replacement
      rw [replaceFrom_of_length, List.append_nil]

/-! ## Two texts in a row -/

/-- Some occurrence begins in `front` and ends in `back`. -/
def Straddles (target front back : List Char) : Prop :=
  ∃ left right, target = left ++ right ∧ left ≠ [] ∧ right ≠ [] ∧ left <:+ front ∧ right <+: back

theorem Straddles.cons {front back : List Char} (h : Straddles target front back) (c : Char) :
    Straddles target (c :: front) back := by
  obtain ⟨left, right, split, some, more, ends, begins⟩ := h
  exact ⟨left, right, split, some, more, ends.trans (List.suffix_cons c front), begins⟩

/-- An occurrence at the front of two texts lies in the first one. -/
theorem isPrefixOf_append_of_not_straddles {front back : List Char} (some : front ≠ [])
    (apart : ¬ Straddles target front back) :
    target.isPrefixOf (front ++ back) = target.isPrefixOf front := by
  rw [Bool.eq_iff_iff, List.isPrefixOf_iff_prefix, List.isPrefixOf_iff_prefix]
  constructor
  · intro whole
    rcases List.prefix_or_prefix_of_prefix whole (List.prefix_append front back) with
      inside | ⟨right, rfl⟩
    · exact inside
    · cases right with
      | nil => exact ⟨[], by simp⟩
      | cons c cs =>
          have begins : c :: cs <+: back := (List.prefix_append_right_inj front).1 whole
          exact absurd ⟨front, c :: cs, rfl, some, nofun, List.suffix_rfl, begins⟩ apart
  · exact fun inside => inside.trans (List.prefix_append front back)

theorem replaceFrom_append {skip : Nat} {front back : List Char} (inside : skip ≤ front.length)
    (apart : ¬ Straddles target front back) :
    replaceFrom target replacement skip (front ++ back) =
      replaceFrom target replacement skip front ++ replaceAll target replacement back := by
  induction front generalizing skip with
  | nil =>
      cases Nat.le_zero.1 inside
      rfl
  | cons c front ih =>
      have later {skip : Nat} (inside : skip ≤ front.length) := ih inside fun h => apart (h.cons c)
      cases skip with
      | succ skip => exact later (Nat.le_of_succ_le_succ inside)
      | zero =>
          -- An occurrence that begins in front ends there, so what is skipped lies in front too.
          have same := isPrefixOf_append_of_not_straddles (List.cons_ne_nil c front) apart
          rw [List.cons_append] at same ⊢
          rw [replaceFrom, replaceFrom, same]
          split
          · next found =>
              have enough : target.length - 1 ≤ front.length :=
                Nat.pred_le_pred (List.isPrefixOf_iff_prefix.1 found).length_le
              rw [later enough, List.append_assoc]
          · rw [later (Nat.zero_le _), List.cons_append]

theorem replaceAll_append {front back : List Char} (apart : ¬ Straddles target front back) :
    replaceAll target replacement (front ++ back) =
      replaceAll target replacement front ++ replaceAll target replacement back :=
  replaceFrom_append (Nat.zero_le _) apart

end Text
end ClusterCodec

/-!
# Scan — passing the front of a text

- `after?`: what follows the first occurrence of a mark.
- `length_dropWhile_le`, `after?_shorter`: both leave no more than they were given.
- `Consumes`: what a function leaves is shorter than what it was given; `orElse_consumes`,
  `guarded_consumes`: ways to combine such functions.
-/

namespace ClusterCodec
namespace Text

theorem length_dropWhile_le (p : Char → Bool) (cs : List Char) :
    (cs.dropWhile p).length ≤ cs.length :=
  (List.dropWhile_sublist p).length_le

theorem length_lt_of_dropWhile_eq {p : Char → Bool} {cs rest : List Char} {c : Char}
    (h : cs.dropWhile p = c :: rest) : rest.length < cs.length := by
  have := length_dropWhile_le p cs
  rw [h] at this
  exact this

/-- What follows the first occurrence of `mark`. -/
def after? (mark : List Char) : List Char → Option (List Char)
  | [] => none
  | c :: cs =>
    if mark.isPrefixOf (c :: cs) then some ((c :: cs).drop mark.length) else after? mark cs

theorem after?_shorter {mark : List Char} {cs rest : List Char} (nonempty : mark ≠ [])
    (h : after? mark cs = some rest) : rest.length < cs.length := by
  induction cs with
  | nil => simp [after?] at h
  | cons c cs ih =>
    unfold after? at h
    split at h
    · simp only [Option.some.injEq] at h
      subst h
      have := List.length_pos_iff.2 nonempty
      simp only [List.length_drop, List.length_cons]
      omega
    · have := ih h
      simp only [List.length_cons]
      omega

/-! ## Functions that leave less -/

/-- Whatever the function leaves is shorter than what it was given. -/
def Consumes (scan : List Char → Option (List Char)) : Prop :=
  ∀ {cs rest : List Char}, scan cs = some rest → rest.length < cs.length

theorem orElse_consumes {f g : List Char → Option (List Char)} (hf : Consumes f)
    (hg : Consumes g) : Consumes fun cs => (f cs).or (g cs) := by
  intro cs rest h
  rcases Option.or_eq_some_iff.1 h with h | ⟨-, h⟩
  · exact hf h
  · exact hg h

theorem guarded_consumes {f : List Char → Option (List Char)} (p : List Char → Bool)
    (hf : Consumes f) : Consumes fun cs => if p cs then f cs else none := by
  intro cs rest h
  by_cases hp : p cs = true
  · simp only [hp, if_true] at h
    exact hf h
  · simp [hp] at h

end Text
end ClusterCodec

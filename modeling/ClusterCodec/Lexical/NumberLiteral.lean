import ClusterCodec.Lexical.Word
import ClusterCodec.Text.Numeral

/-!
# NumberLiteral — integers and floating-point numbers

- `afterDigits?`: the digits of an integer of some base, with underscores.
- `afterInteger?`: an integer with an optional base mark and suffix.
- `afterFloat?`: a number with a fraction or an exponent, and an optional suffix.
- `afterNumber?`: either.
-/

namespace ClusterCodec
namespace Lexical

open Text

/-- A suffix that is optional; what follows must not continue a word. -/
def wordEnd? (cs : List Char) : Option (List Char) :=
  let rest := afterSuffix cs
  if rest.head?.any WordChar.continuesWord then none else some rest

/-! ## Integers -/

/-- The digits of an integer. A decimal digit that the base lacks is an error; a letter that it lacks
begins the suffix. No decimal integer begins with an underscore. -/
def afterDigits? (base : Nat) (seen : Bool) : List Char → Option (List Char)
  | [] => if seen then some [] else none
  | c :: cs =>
    if c = '_' then
      if !seen && base = 10 then none else afterDigits? base seen cs
    else if (Numeral.digitValue? base c).isSome then afterDigits? base true cs
    else if c.isDigit then none
    -- A letter that is no digit of the base begins the suffix.
    else if seen then some (c :: cs)
    else none

def afterInteger? (cs : List Char) : Option (List Char) :=
  let digits := match cs with
    | '0' :: 'x' :: rest => afterDigits? 16 false rest
    | '0' :: 'o' :: rest => afterDigits? 8 false rest
    | '0' :: 'b' :: rest => afterDigits? 2 false rest
    | _ => afterDigits? 10 false cs
  digits.bind wordEnd?

/-! ## Floating-point numbers -/

def isDigitOrJoin (c : Char) : Bool :=
  c.isDigit || c == '_'

def afterJoins (cs : List Char) : List Char :=
  cs.dropWhile (· == '_')

/-- Passes an optional sign with underscores around it. -/
def afterSign (cs : List Char) : List Char :=
  match afterJoins cs with
  | '+' :: rest => afterJoins rest
  | '-' :: rest => afterJoins rest
  | rest => rest

/-- The digits of an exponent after an optional sign; underscores may stand anywhere. -/
def afterExponent? (cs : List Char) : Option (List Char) :=
  if (afterSign cs).head?.any Char.isDigit then some ((afterSign cs).dropWhile isDigitOrJoin)
  else none

/-- What may follow the fraction: an exponent; without one the letter begins a suffix. -/
def afterFraction (cs : List Char) : List Char :=
  match cs with
  | 'e' :: rest | 'E' :: rest => (afterExponent? rest).getD cs
  | _ => cs

/-- A fraction or an exponent. The point of a fraction stands neither before another one nor before
a word. -/
def afterPoint? : List Char → Option (List Char)
  | '.' :: cs =>
    if cs.head?.any fun c => c == '.' || WordChar.startsWord c then none
    else some (afterFraction (cs.dropWhile isDigitOrJoin))
  | 'e' :: cs => afterExponent? cs
  | 'E' :: cs => afterExponent? cs
  | _ => none

def afterFloat? (cs : List Char) : Option (List Char) :=
  if cs.head?.any Char.isDigit then (afterPoint? (cs.dropWhile isDigitOrJoin)).bind wordEnd?
  else none

def afterNumber? (cs : List Char) : Option (List Char) :=
  (afterFloat? cs).or (afterInteger? cs)

/-! ## What remains is shorter -/

theorem length_wordEnd?_le {cs rest : List Char} (h : wordEnd? cs = some rest) :
    rest.length ≤ cs.length := by
  unfold wordEnd? at h
  simp only at h
  split at h
  · simp at h
  · simp only [Option.some.injEq] at h
    subst h
    exact length_afterSuffix_le cs

theorem length_afterDigits?_le {base : Nat} {seen : Bool} {cs rest : List Char}
    (h : afterDigits? base seen cs = some rest) :
    rest.length ≤ cs.length ∧ (seen = false → rest.length < cs.length) := by
  fun_induction afterDigits? base seen cs with
  | case1 => simp_all
  | case2 => simp at h
  | case3 => simp at h
  | case4 seen cs hs ih =>
    obtain ⟨le, -⟩ := ih h
    simp only [List.length_cons]
    omega
  | case5 seen c cs hu hd ih =>
    obtain ⟨le, -⟩ := ih h
    simp only [List.length_cons]
    omega
  | case6 => simp at h
  | case7 =>
    simp only [Option.some.injEq] at h
    subst h
    simp
  | case8 => simp at h

theorem afterInteger?_consumes : Consumes afterInteger? := by
  intro cs rest h
  unfold afterInteger? at h
  obtain ⟨after, hd, hw⟩ := Option.bind_eq_some_iff.1 h
  have le := length_wordEnd?_le hw
  have digits : after.length < cs.length := by
    split at hd
    case h_4 => exact (length_afterDigits?_le hd).2 rfl
    all_goals
      have := (length_afterDigits?_le hd).2 rfl
      simp only [List.length_cons]
      omega
  omega

theorem length_afterJoins_le (cs : List Char) : (afterJoins cs).length ≤ cs.length :=
  length_dropWhile_le _ _

theorem length_afterSign_le (cs : List Char) : (afterSign cs).length ≤ cs.length := by
  have le := length_afterJoins_le cs
  unfold afterSign
  split
  · next rest heq =>
    have := length_afterJoins_le rest
    rw [heq, List.length_cons] at le
    omega
  · next rest heq =>
    have := length_afterJoins_le rest
    rw [heq, List.length_cons] at le
    omega
  · exact le

theorem length_afterExponent?_le {cs rest : List Char} (h : afterExponent? cs = some rest) :
    rest.length ≤ cs.length := by
  unfold afterExponent? at h
  split at h
  · simp only [Option.some.injEq] at h
    subst h
    exact Nat.le_trans (length_dropWhile_le _ _) (length_afterSign_le cs)
  · simp at h

theorem length_afterFraction_le (cs : List Char) : (afterFraction cs).length ≤ cs.length := by
  have exponent (cs rest : List Char) (c : Char) (h : cs = c :: rest) :
      ((afterExponent? rest).getD cs).length ≤ cs.length := by
    cases he : afterExponent? rest with
    | none => exact Nat.le_refl _
    | some after =>
      have := length_afterExponent?_le he
      simp only [Option.getD_some, h, List.length_cons]
      omega
  unfold afterFraction
  split
  · exact exponent _ _ _ rfl
  · exact exponent _ _ _ rfl
  · exact Nat.le_refl _

theorem afterPoint?_consumes : Consumes afterPoint? := by
  intro cs rest h
  unfold afterPoint? at h
  split at h
  · next cs =>
    split at h
    · simp at h
    · simp only [Option.some.injEq] at h
      subst h
      have fraction := length_afterFraction_le (cs.dropWhile isDigitOrJoin)
      have digits := length_dropWhile_le isDigitOrJoin cs
      simp only [List.length_cons]
      omega
  · exact Nat.lt_succ_of_le (length_afterExponent?_le h)
  · exact Nat.lt_succ_of_le (length_afterExponent?_le h)
  · simp at h

theorem afterFloat?_consumes : Consumes afterFloat? := by
  intro cs rest h
  unfold afterFloat? at h
  split at h
  · obtain ⟨after, hp, hw⟩ := Option.bind_eq_some_iff.1 h
    have := length_wordEnd?_le hw
    have := afterPoint?_consumes hp
    have := length_dropWhile_le isDigitOrJoin cs
    omega
  · simp at h

theorem afterNumber?_consumes : Consumes afterNumber? :=
  orElse_consumes afterFloat?_consumes afterInteger?_consumes

end Lexical
end ClusterCodec

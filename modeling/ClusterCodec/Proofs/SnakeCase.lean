import ClusterCodec.Proofs.SnakeLetters
import Mathlib.Data.List.Chain

/-!
# SnakeCase — snake case is settled after one pass

- `Run.avoids`: runs of code points without a common member; `Shift.image` is the run that another
  one is moved to.
- `LetterCase.lowered_of_mem_lowered`: a small form consists of characters that are their own small
  forms, over all of Unicode.
- `Settled`: small letters, and single underscores inside the text only.
- `settled_snakeChars`, `snakeChars_of_settled`: snake case gives such a text and leaves it as it is.
- `snake_eq_self_iff`, `snake_snake`: so these are the texts in snake case, and a second pass changes
  nothing.
-/

namespace ClusterCodec

/-! ## Runs that are moved apart -/

namespace Text
namespace CodePoints

def Shift.source (r : Shift) : Run :=
  ⟨r.first, r.last, r.step⟩

/-- Where the run is moved to. -/
def Shift.image (r : Shift) : Run :=
  ⟨r.target r.first, r.target r.last, r.step⟩

/-- One run stands beside the other, or between its members. -/
def Run.avoids (r other : Run) : Bool :=
  r.last.blt other.first || other.last.blt r.first ||
    ((r.first == r.last || r.step == 2) && other.step == 2 && (r.first + other.first) % 2 == 1)

section Members

variable {n : Nat}

theorem Run.has_iff {r : Run} :
    r.has n = true ↔ r.first ≤ n ∧ n ≤ r.last ∧ (n - r.first) % r.step = 0 := by
  rw [Run.has, Bool.and_eq_true, Bool.and_eq_true, decide_eq_true_eq, decide_eq_true_eq,
    beq_iff_eq, and_assoc]

/-- What a run without gaps does not have lies beside it. -/
theorem Run.beside_of_has_eq_false {r : Run} (step : r.step = 1) (h : r.has n = false) :
    n < r.first ∨ r.last < n := by
  rw [← Bool.not_eq_true, Run.has_iff, step, Nat.mod_one] at h
  omega

theorem Run.has_eq_false_of_avoids {r other : Run} (apart : r.avoids other = true)
    (member : r.has n = true) : other.has n = false := by
  obtain ⟨low, high, step⟩ := Run.has_iff.1 member
  unfold Run.avoids at apart
  unfold Run.has
  simp only [Bool.or_eq_true, Bool.and_eq_true, Nat.blt_eq, beq_iff_eq] at apart
  simp only [Bool.and_eq_false_iff, decide_eq_false_iff_not, beq_eq_false_iff_ne]
  rcases apart with (below | above) | ⟨⟨even, two⟩, odd⟩
  · omega
  · omega
  · -- All members have the parity of the first one, and `other` has the other parity.
    rw [two]
    rcases even with single | pair
    · omega
    · rw [pair] at step
      omega

theorem Shift.cast_target {r : Shift} (start : 0 ≤ r.first + r.offset) (after : r.first ≤ n) :
    (r.target n : Int) = n + r.offset := by
  rw [Shift.target, Int.ofNat_eq_natCast]
  omega

theorem Shift.has_target {r : Shift} (start : 0 ≤ r.first + r.offset) (member : r.has n = true) :
    r.image.has (r.target n) = true := by
  have source : r.first ≤ n ∧ n ≤ r.last ∧ (n - r.first) % r.step = 0 :=
    (Run.has_iff (r := r.source)).1 member
  obtain ⟨low, high, step⟩ := source
  have first := Shift.cast_target start (Nat.le_refl r.first)
  have last := Shift.cast_target start (Nat.le_trans low high)
  have moved := Shift.cast_target start low
  have along : r.target n - r.target r.first = n - r.first := by
    omega
  refine Run.has_iff.2 ⟨?_, ?_, ?_⟩
  · change r.target r.first ≤ r.target n
    omega
  · change r.target n ≤ r.target r.last
    omega
  · change (r.target n - r.target r.first) % r.step = 0
    rw [along]
    exact step

end Members

end CodePoints

/-! ## Small forms -/

namespace LetterCase

open CodePoints

/-- What a small form must not be: a capital letter, an underscore, no character at all, or a
character that has another small form. -/
def avoided : List Run :=
  ⟨0x41, 0x5A, 1⟩ :: ⟨0x5F, 0x5F, 1⟩ :: ⟨0x130, 0x130, 1⟩ :: ⟨0xD800, 0xDFFF, 1⟩ ::
    lowerRuns.map Shift.source

theorem lowerRuns_avoid :
    (lowerRuns.all fun r => decide (0 ≤ r.first + r.offset ∧ r.target r.last < 0x110000) &&
      avoided.all r.image.avoids) = true := by
  decide +kernel

theorem image_of_mem_lowerRuns {r : Shift} (listed : r ∈ lowerRuns) :
    0 ≤ r.first + r.offset ∧ r.target r.last < 0x110000 ∧
      ∀ other ∈ avoided, r.image.avoids other = true := by
  have row := List.all_eq_true.1 lowerRuns_avoid r listed
  rw [Bool.and_eq_true, decide_eq_true_eq, List.all_eq_true] at row
  exact ⟨row.1.1, row.1.2, row.2⟩

/-- How the small form of a character comes about. -/
theorem lowered_cases (c : Char) :
    (c.toNat < 128 ∧ lowered c = [c.toLower]) ∨
      (c.toNat = 0x130 ∧ lowered c = ['i', Char.ofNat 0x307]) ∨
      (128 ≤ c.toNat ∧ lowered c = [c]) ∨
      ∃ r ∈ lowerRuns, r.has c.toNat = true ∧ lowered c = [Char.ofNat (r.target c.toNat)] := by
  unfold lowered
  split
  · next ascii =>
      exact .inl ⟨of_decide_eq_true ascii, rfl⟩
  · next other =>
      have range : 128 ≤ c.toNat := by
        unfold isAscii at other
        simpa using other
      split
      · next dotted =>
          exact .inr (.inl ⟨dotted, rfl⟩)
      · refine .inr (.inr ?_)
        unfold shiftIn?
        cases found : lowerRuns.find? (·.has c.toNat) with
        | none =>
            exact .inl ⟨range, rfl⟩
        | some r =>
            have member : r.has c.toNat = true := by simpa using List.find?_some found
            exact .inr ⟨r, List.mem_of_find?_eq_some found, member, rfl⟩

section Target

variable {r : Shift} {n : Nat}

theorem has_target_of_mem_avoided (listed : r ∈ lowerRuns) (member : r.has n = true) {other : Run}
    (h : other ∈ avoided) : other.has (r.target n) = false := by
  rcases image_of_mem_lowerRuns listed with ⟨start, -, apart⟩
  exact Run.has_eq_false_of_avoids (apart other h) (Shift.has_target start member)

theorem toNat_target (listed : r ∈ lowerRuns) (member : r.has n = true) :
    (Char.ofNat (r.target n)).toNat = r.target n := by
  have surrogate : Run.has ⟨0xD800, 0xDFFF, 1⟩ (r.target n) = false :=
    has_target_of_mem_avoided listed member (by simp [avoided])
  have beside : r.target n < 0xD800 ∨ 0xDFFF < r.target n :=
    Run.beside_of_has_eq_false rfl surrogate
  rcases image_of_mem_lowerRuns listed with ⟨start, bound, -⟩
  have high : r.target n ≤ r.target r.last := (Run.has_iff.1 (Shift.has_target start member)).2.1
  have valid : (r.target n).isValidChar := by
    unfold Nat.isValidChar
    omega
  rw [Char.ofNat, dif_pos valid]
  rfl

theorem lowered_target (listed : r ∈ lowerRuns) (member : r.has n = true) :
    lowered (Char.ofNat (r.target n)) = [Char.ofNat (r.target n)] := by
  have place := toNat_target listed member
  have avoids {other : Run} (h : other ∈ avoided) : other.has (r.target n) = false :=
    has_target_of_mem_avoided listed member h
  -- The image is no capital letter, not the dotted one, and a member of no run.
  rcases lowered_cases (Char.ofNat (r.target n)) with
    ⟨-, same⟩ | ⟨dotted, -⟩ | ⟨-, same⟩ | ⟨again, listed', member', -⟩
  · have small : (Char.ofNat (r.target n)).toLower = Char.ofNat (r.target n) := by
      refine dif_neg fun range => ?_
      have capital : Run.has ⟨0x41, 0x5A, 1⟩ (r.target n) = false := avoids (.head _)
      have beside : r.target n < 0x41 ∨ 0x5A < r.target n :=
        Run.beside_of_has_eq_false rfl capital
      have among := Lexical.isUpper_iff.1 (decide_eq_true range)
      rw [place] at among
      omega
    rw [same, small]
  · have dot : Run.has ⟨0x130, 0x130, 1⟩ (r.target n) = false := avoids (by simp [avoided])
    rw [place] at dotted
    rw [dotted] at dot
    cases dot
  · exact same
  · have source : again.source.has (r.target n) = false := by
      refine avoids ?_
      exact List.mem_append_right [_, _, _, _] (List.mem_map_of_mem listed')
    rw [place] at member'
    cases member'.symm.trans source

end Target

/-- A small form consists of characters that are their own small forms. -/
theorem lowered_of_mem_lowered {c d : Char} (h : d ∈ lowered c) : lowered d = [d] := by
  rcases lowered_cases c with ⟨ascii, same⟩ | ⟨-, same⟩ | ⟨-, same⟩ | ⟨r, listed, member, same⟩
  · rw [same, List.mem_singleton] at h
    subst h
    exact forall_of_toNat_lt (P := fun c => lowered c.toLower = [c.toLower]) (by decide) ascii
  · have both : ∀ d ∈ ['i', Char.ofNat 0x307], lowered d = [d] := by
      decide
    rw [same] at h
    exact both d h
  · rw [same, List.mem_singleton] at h
    rw [h, same]
  · rw [same, List.mem_singleton] at h
    rw [h, lowered_target listed member]

theorem isUpper_of_lowered_eq {c : Char} (small : lowered c = [c]) : c.isUpper = false := by
  rw [Bool.eq_false_iff]
  intro capital
  have range : c.toNat < 128 := Nat.lt_of_le_of_lt (Lexical.isUpper_iff.1 capital).2 (by decide)
  have other : lowered c = [c] → c.isUpper = false :=
    forall_of_toNat_lt (P := fun c => lowered c = [c] → c.isUpper = false) (by decide) range
  rw [other small] at capital
  cases capital

theorem eq_underscore_of_mem_lowered {c : Char} (h : '_' ∈ lowered c) : c = '_' := by
  rcases lowered_cases c with ⟨ascii, -⟩ | ⟨-, same⟩ | ⟨-, same⟩ | ⟨r, listed, member, same⟩
  · exact forall_of_toNat_lt (P := fun c => '_' ∈ lowered c → c = '_') (by decide) ascii h
  · rw [same] at h
    exact absurd h (by decide)
  · rw [same, List.mem_singleton] at h
    exact h.symm
  · have underscore : Run.has ⟨0x5F, 0x5F, 1⟩ (r.target c.toNat) = false :=
      has_target_of_mem_avoided listed member (by simp [avoided])
    rw [same, List.mem_singleton] at h
    rw [← toNat_target listed member, ← h] at underscore
    cases underscore

theorem lowered_ne_nil (c : Char) : lowered c ≠ [] := by
  rcases lowered_cases c with ⟨-, same⟩ | ⟨-, same⟩ | ⟨-, same⟩ | ⟨_, -, -, same⟩
  all_goals
    rw [same]
    exact List.cons_ne_nil _ _

end LetterCase

end Text

namespace Name

open Text LetterCase

variable {cs : List Char}

/-! ## Single underscores -/

/-- No two underscores stand in a row. -/
def Single (cs : List Char) : Prop :=
  cs.IsChain fun a b => ¬ (a = '_' ∧ b = '_')

theorem Single.part {part : List Char} (single : Single cs) (inside : part <:+: cs) :
    Single part :=
  List.IsChain.infix single inside

theorem Single.not_doubled (single : Single cs) : ¬ ['_', '_'] <:+: cs := by
  intro inside
  have pair := single.part inside
  exact (List.isChain_cons_cons.1 pair).1 ⟨rfl, rfl⟩

theorem head?_squeeze (cs : List Char) : (squeeze cs).head? = cs.head? := by
  fun_induction squeeze cs with
  | case1 a b cs both ih =>
      simp only [Bool.and_eq_true, decide_eq_true_eq] at both
      rw [ih, both.1, both.2]
      rfl
  | case2 a b cs other ih => rfl
  | case3 cs short => rfl

theorem single_squeeze (cs : List Char) : Single (squeeze cs) := by
  fun_induction squeeze cs with
  | case1 a b cs both ih =>
      exact ih
  | case2 a b cs other ih =>
      refine List.isChain_cons.2 ⟨fun c first => ?_, ih⟩
      rw [head?_squeeze] at first
      cases first
      simpa using other
  | case3 cs short =>
      rcases cs with _ | ⟨a, _ | ⟨b, cs⟩⟩
      · exact .nil
      · exact .singleton a
      · exact absurd rfl (short a b cs)

theorem squeeze_of_single (single : Single cs) : squeeze cs = cs := by
  fun_induction squeeze cs with
  | case1 a b cs both ih =>
      simp only [Bool.and_eq_true, decide_eq_true_eq] at both
      exact absurd both (List.isChain_cons_cons.1 single).1
  | case2 a b cs other ih =>
      rw [ih (List.isChain_cons_cons.1 single).2]
  | case3 cs short => rfl

/-- Only an underscore has one in its small form, and no small form is empty: no underscores come
together that were apart. -/
theorem single_lowered (single : Single cs) : Single (cs.flatMap lowered) := by
  induction cs with
  | nil => exact .nil
  | cons c cs ih =>
      have first := List.isChain_cons.1 single
      have alone : Single (lowered c) := by
        rcases lowered_cases c with ⟨-, same⟩ | ⟨-, same⟩ | ⟨-, same⟩ | ⟨_, -, -, same⟩
        · rw [same]
          exact .singleton _
        · rw [same]
          exact .cons_cons (by decide) (.singleton _)
        · rw [same]
          exact .singleton _
        · rw [same]
          exact .singleton _
      refine List.isChain_append.2 ⟨alone, ih first.2, ?_⟩
      -- Two underscores that meet come from two that stood side by side.
      rintro _ ends _ begins ⟨rfl, rfl⟩
      have here : c = '_' := eq_underscore_of_mem_lowered (List.mem_of_getLast? ends)
      cases cs with
      | nil => cases begins
      | cons d cs =>
          change (lowered d ++ cs.flatMap lowered).head? = some '_' at begins
          rw [List.head?_append_of_ne_nil _ (lowered_ne_nil d)] at begins
          have next : d = '_' := eq_underscore_of_mem_lowered (List.mem_of_mem_head? begins)
          exact first.1 d rfl ⟨here, next⟩

/-! ## Settled texts -/

/-- Small letters, and single underscores inside the text only. -/
structure Settled (cs : List Char) : Prop where
  small : ∀ c ∈ cs, lowered c = [c]
  single : Single cs
  first : cs.head? ≠ some '_'
  last : cs.getLast? ≠ some '_'

theorem settled_snakeChars (cs : List Char) : Settled (snakeChars cs) where
  small c written := by
    rcases List.mem_flatMap.1 (mem_of_mem_trimBy written) with ⟨d, -, inForm⟩
    exact lowered_of_mem_lowered inForm
  single := (single_lowered (single_squeeze _)).part (infix_trimBy _ _)
  first underscore := by
    cases not_drop_of_head?_trimBy underscore
  last underscore := by
    cases not_drop_of_getLast?_trimBy underscore

section NoCapitals

variable (small : ∀ c ∈ cs, c.isUpper = false)

include small

theorem unifyAbbreviations_of_no_capitals : unifyAbbreviations cs = cs := by
  have capital : ∀ row ∈ abbreviations, row.1.toList.any Char.isUpper = true := by
    decide
  have untouched : ∀ row ∈ abbreviations,
      replaceAll row.1.toList row.2.toList cs = cs := by
    intro row listed
    apply replaceAll_of_not_occursIn
    rw [Bool.eq_false_iff, ne_eq, occursIn_iff]
    intro inside
    rcases List.any_eq_true.1 (capital row listed) with ⟨c, inRow, upper⟩
    rw [small c (inside.subset inRow)] at upper
    cases upper
  exact List.foldlRecOn (motive := (· = cs)) abbreviations _ rfl fun s same row listed => by
    rw [same, untouched row listed]

theorem splitCapitalRuns_of_no_capitals : splitCapitalRuns cs = cs := by
  fun_induction splitCapitalRuns cs with
  | case1 a b cs boundary ih =>
      rw [small a List.mem_cons_self] at boundary
      cases boundary
  | case2 a b cs inside ih =>
      rw [ih fun c listed => small c (.tail _ listed)]
  | case3 cs short => rfl

theorem splitCapitals_of_no_capitals : splitCapitals cs = cs := by
  fun_induction splitCapitals cs with
  | case1 a b cs boundary ih =>
      rw [small b (.tail _ List.mem_cons_self), Bool.and_false] at boundary
      cases boundary
  | case2 a b cs inside ih =>
      rw [ih fun c listed => small c (.tail _ listed)]
  | case3 cs short => rfl

end NoCapitals

/-- No step of the conversion changes a settled text. -/
theorem snakeChars_of_settled (settled : Settled cs) : snakeChars cs = cs := by
  have small : ∀ c ∈ cs, c.isUpper = false := fun c listed =>
    isUpper_of_lowered_eq (settled.small c listed)
  have same : cs.flatMap lowered = cs := by
    rw [List.flatMap_congr settled.small, List.flatMap_singleton']
  have ends (end? : Option Char) (other : end? ≠ some '_') :
      ∀ c, end? = some c → (c == '_') = false := by
    rintro c rfl
    exact beq_false_of_ne fun underscore => other (congrArg some underscore)
  calc
    snakeChars cs = trimUnderscores ((squeeze cs).flatMap lowered) := by
      rw [snakeChars, unifyAbbreviations_of_no_capitals small,
        splitCapitalRuns_of_no_capitals small, splitCapitals_of_no_capitals small]
    _ = trimUnderscores cs := by
      rw [squeeze_of_single settled.single, same]
    _ = cs := trimBy_eq_self (ends _ settled.first) (ends _ settled.last)

theorem settled_snake (name : String) : Settled (snake name).toList := by
  rw [snake, String.toList_ofList]
  exact settled_snakeChars name.toList

/-- The names that are in snake case already. -/
theorem snake_eq_self_iff {name : String} : snake name = name ↔ Settled name.toList := by
  constructor
  · intro same
    rw [← same]
    exact settled_snake name
  · intro settled
    rw [snake, snakeChars_of_settled settled, String.ofList_toList]

/-- Snake case of snake case is the same text. It has no ASCII capital, no two underscores in a row
and none at its ends, and every text of small letters with these properties is in snake case. -/
theorem snake_snake (name : String) :
    snake (snake name) = snake name ∧ (∀ c ∈ (snake name).toList, c.isUpper = false) ∧
      ¬ "__".toList <:+: (snake name).toList ∧ (snake name).toList.head? ≠ some '_' ∧
      (snake name).toList.getLast? ≠ some '_' ∧ (snake name = name ↔ Settled name.toList) := by
  have settled : Settled (snake name).toList := settled_snake name
  refine ⟨snake_eq_self_iff.2 settled, ?_, settled.single.not_doubled, settled.first, settled.last,
    snake_eq_self_iff⟩
  intro c listed
  exact isUpper_of_lowered_eq (settled.small c listed)

end Name
end ClusterCodec

import ClusterCodec.Proofs.DeclaredIntegers
import ClusterCodec.Emit.AttributeDispatch

/-!
# NumeralReading — which texts are read as numbers

Ids, values of enums, positions of flags and defaults are all read in one way.  Here the texts that are
read are given by a grammar, which knows nothing of the reader.

- `IsDigit`, `Positional`: digits in a base and the number that they stand for.
- `IsNumeral`, `NumberIn`: an optional mark of the base, an optional plus sign and digits, between
  blanks.
- `trimBy_between`, `exists_blanks_around`: what trimming leaves of such a text, and what it takes away.
- `readNat_iff_numberIn`: a text is read as a number iff it holds that number.
- `readNat_decimal`, `readNat_hexId`: what is written for a number is read as that number.
- `readNat_exact`: both at once; no number is changed, and none above the limit is read.
-/

namespace ClusterCodec
namespace Text

/-! ## Blanks around a text -/

section Around

variable {drop : Char → Bool} {cs front back : List Char}

theorem dropWhile_append_of_head (dropped : ∀ c ∈ front, drop c = true)
    (stays : ∀ c, cs.head? = some c → drop c = false) (nonempty : cs ≠ []) (rest : List Char) :
    (front ++ cs ++ rest).dropWhile drop = cs ++ rest := by
  rw [List.append_assoc, List.dropWhile_append_of_pos dropped]
  cases cs with
  | nil => exact absurd rfl nonempty
  | cons c cs => exact List.dropWhile_cons_of_neg (by simp [stays c rfl])

/-- What is dropped on both sides of a text may be put there. -/
theorem trimBy_between (before : ∀ c ∈ front, drop c = true) (behind : ∀ c ∈ back, drop c = true)
    (nonempty : cs ≠ []) (first : ∀ c, cs.head? = some c → drop c = false)
    (last : ∀ c, cs.getLast? = some c → drop c = false) :
    trimBy drop (front ++ cs ++ back) = cs := by
  have lastReversed : ∀ c, cs.reverse.head? = some c → drop c = false := by
    simpa using last
  have behindReversed : ∀ c ∈ back.reverse, drop c = true := by
    simpa using behind
  have shorter : (cs ++ back).reverse.dropWhile drop = cs.reverse := by
    simpa using dropWhile_append_of_head behindReversed lastReversed (by simpa using nonempty) []
  rw [trimBy, dropWhile_append_of_head before first nonempty, shorter, List.reverse_reverse]

/-- Trimming takes nothing away but what it is to drop. -/
theorem exists_blanks_around (drop : Char → Bool) (cs : List Char) :
    ∃ front back, cs = front ++ trimBy drop cs ++ back ∧ ∀ c ∈ front ++ back, drop c = true := by
  have dropped {ds : List Char} : ∀ c ∈ ds.takeWhile drop, drop c = true := fun _ =>
    List.mem_takeWhile_imp
  have back : cs.dropWhile drop =
      trimBy drop cs ++ ((cs.dropWhile drop).reverse.takeWhile drop).reverse := by
    rw [trimBy, ← List.reverse_append, List.takeWhile_append_dropWhile, List.reverse_reverse]
  refine ⟨cs.takeWhile drop, ((cs.dropWhile drop).reverse.takeWhile drop).reverse, ?_, ?_⟩
  · calc
      cs = cs.takeWhile drop ++ cs.dropWhile drop := List.takeWhile_append_dropWhile.symm
      _ = cs.takeWhile drop ++
          (trimBy drop cs ++ ((cs.dropWhile drop).reverse.takeWhile drop).reverse) := by rw [← back]
      _ = _ := (List.append_assoc ..).symm
  · intro c hc
    rcases List.mem_append.1 hc with before | behind
    · exact dropped c before
    · exact dropped c (List.mem_reverse.1 behind)

end Around

namespace Numeral

/-! ## Digits in a base -/

/-- The character is the digit of this value, in small or in capital letters. -/
def IsDigit (c : Char) (value : Nat) : Prop :=
  "0123456789abcdef".toList[value]? = some c ∨ "0123456789ABCDEF".toList[value]? = some c

instance (c : Char) (value : Nat) : Decidable (IsDigit c value) :=
  inferInstanceAs (Decidable (_ ∨ _))

/-- One or more digits in a base, the highest one first, and the number that they stand for. -/
inductive Positional (base : Nat) : List Char → Nat → Prop where
  | digit {c : Char} {value : Nat} : IsDigit c value → value < base → Positional base [c] value
  | append {cs : List Char} {n : Nat} {c : Char} {value : Nat} :
      Positional base cs n → IsDigit c value → value < base →
        Positional base (cs ++ [c]) (n * base + value)

variable {base n value : Nat} {c : Char} {cs : List Char}

theorem lt_of_isDigit (digit : IsDigit c value) : value < 16 := by
  rcases digit with small | capital
  · exact (List.getElem?_eq_some_iff.1 small).1
  · exact (List.getElem?_eq_some_iff.1 capital).1

/-- The digits are looked at one by one. -/
theorem digit_facts (digit : IsDigit c value) :
    digitValue? 16 c = some value ∧ isBlank c = false := by
  have small : ∀ v < 16, "0123456789abcdef".toList[v]?.bind (digitValue? 16) = some v ∧
      "0123456789abcdef".toList[v]?.map isBlank = some false := by decide
  have capital : ∀ v < 16, "0123456789ABCDEF".toList[v]?.bind (digitValue? 16) = some v ∧
      "0123456789ABCDEF".toList[v]?.map isBlank = some false := by decide
  have range := lt_of_isDigit digit
  rcases digit with listed | listed
  · have here := small value range
    rw [listed] at here
    exact ⟨here.1, Option.some.inj here.2⟩
  · have here := capital value range
    rw [listed] at here
    exact ⟨here.1, Option.some.inj here.2⟩

theorem isDigit_of_digitValue? (found : digitValue? 16 c = some value) : IsDigit c value := by
  have all : ∀ n < 103, ∀ v ∈ digitValue? 16 (Char.ofNat n), IsDigit (Char.ofNat n) v := by
    decide
  have some : Lexical.isHexDigit c = true := by
    rw [Lexical.isHexDigit, found]
    rfl
  -- The letter f is the last character that is a digit.
  have range : c.toNat < 103 := Nat.lt_succ_of_le (toNat_of_isHexDigit some).2
  have here := all c.toNat range
  rw [Char.ofNat_toNat] at here
  exact here value found

/-- The reader knows the digits of a base and their values. -/
theorem digitValue?_eq_some_iff (known : base ≤ 16) :
    digitValue? base c = some value ↔ IsDigit c value ∧ value < base := by
  constructor
  · intro found
    have small : value < base := of_decide_eq_true (Option.filter_eq_some_iff.1 found).2
    exact ⟨isDigit_of_digitValue? (digitValue?_of_le known found), small⟩
  · rintro ⟨digit, small⟩
    have listed := (Option.filter_eq_some_iff.1 (digit_facts digit).1).1
    exact Option.filter_eq_some_iff.2 ⟨listed, decide_eq_true small⟩

theorem Positional.isDigits (known : base ≤ 16) (digits : Positional base cs n) :
    IsDigits base cs ∧ valueOf base cs = n := by
  induction digits with
  | @digit c value digit small =>
      have found := (digitValue?_eq_some_iff known).2 ⟨digit, small⟩
      refine ⟨⟨List.cons_ne_nil _ _, by simp [found]⟩, ?_⟩
      simp [valueOf, valueFrom, found]
  | @append cs n c value digits digit small ih =>
      obtain ⟨⟨-, all⟩, same⟩ := ih
      have found := (digitValue?_eq_some_iff known).2 ⟨digit, small⟩
      refine ⟨⟨by simp, ?_⟩, ?_⟩
      · intro d written
        rcases List.mem_append.1 written with front | last
        · exact all d front
        · rw [List.mem_singleton.1 last, found]
          rfl
      · simp [valueOf_concat, same, found]

/-- The last digit is split off, as it has the lowest place. -/
theorem IsDigits.positional (known : base ≤ 16) (digits : IsDigits base cs) :
    Positional base cs (valueOf base cs) := by
  obtain ⟨nonempty, all⟩ := digits
  induction cs using List.reverseRecOn with
  | nil => exact absurd rfl nonempty
  | append_singleton front c ih =>
      obtain ⟨value, found⟩ := Option.isSome_iff_exists.1 (all c (by simp))
      obtain ⟨digit, small⟩ := (digitValue?_eq_some_iff known).1 found
      rw [valueOf_concat, found, Option.getD_some]
      by_cases alone : front = []
      · subst alone
        simpa [valueOf, valueFrom] using Positional.digit digit small
      · have inFront := ih alone fun d written => all d (List.mem_append_left _ written)
        exact .append inFront digit small

theorem positional_iff (known : base ≤ 16) :
    Positional base cs n ↔ IsDigits base cs ∧ valueOf base cs = n := by
  constructor
  · exact Positional.isDigits known
  · rintro ⟨digits, rfl⟩
    exact digits.positional known

/-! ## Numerals -/

/-- What may stand in front of the digits to say which base they are in. -/
inductive IsMark : List Char → Nat → Prop where
  | none : IsMark [] 10
  | small : IsMark ['0', 'x'] 16
  | capital : IsMark ['0', 'X'] 16

/-- Digits after an optional mark of their base and an optional plus sign. -/
def IsNumeral (cs : List Char) (n : Nat) : Prop :=
  ∃ mark base sign digits, IsMark mark base ∧ (sign = [] ∨ sign = ['+']) ∧
    Positional base digits n ∧ cs = mark ++ sign ++ digits

/-- The text is a numeral between blanks, and its number is below `2 ^ 64`. -/
def NumberIn (s : String) (n : Nat) : Prop :=
  ∃ front cs back, s.toList = front ++ cs ++ back ∧ (∀ c ∈ front ++ back, isBlank c = true) ∧
    IsNumeral cs n ∧ n < 2 ^ 64

theorem IsMark.known {mark : List Char} (marked : IsMark mark base) : base ≤ 16 := by
  cases marked <;> decide

/-- The number after the mark, as it is read. -/
theorem isWord_iff (known : base ≤ 16) :
    IsWord base cs n ↔ (∃ sign digits, (sign = [] ∨ sign = ['+']) ∧ Positional base digits n ∧
      cs = sign ++ digits) ∧ n < 2 ^ 64 := by
  constructor
  · rintro ⟨digits, signed, isDigits, same, fits⟩
    have positional := (positional_iff known).2 ⟨isDigits, same⟩
    rcases signed with rfl | rfl
    · exact ⟨⟨[], cs, .inl rfl, positional, rfl⟩, fits⟩
    · exact ⟨⟨['+'], digits, .inr rfl, positional, rfl⟩, fits⟩
  · rintro ⟨⟨sign, digits, signed, positional, rfl⟩, fits⟩
    obtain ⟨isDigits, same⟩ := (positional_iff known).1 positional
    rcases signed with rfl | rfl
    · exact ⟨digits, .inl rfl, isDigits, same, fits⟩
    · exact ⟨digits, .inr rfl, isDigits, same, fits⟩

/-- A trimmed text stands for a number iff it is a numeral. -/
theorem isNumeral_iff :
    IsNumeral cs n ∧ n < 2 ^ 64 ↔ IsWord 10 cs n ∨
      ∃ ds, (cs = '0' :: 'x' :: ds ∨ cs = '0' :: 'X' :: ds) ∧ IsWord 16 ds n := by
  constructor
  · rintro ⟨⟨mark, base, sign, digits, marked, signed, positional, rfl⟩, fits⟩
    have word : IsWord base (sign ++ digits) n :=
      (isWord_iff marked.known).2 ⟨⟨sign, digits, signed, positional, rfl⟩, fits⟩
    rw [List.append_assoc]
    cases marked with
    | none => exact .inl word
    | small => exact .inr ⟨_, .inl rfl, word⟩
    | capital => exact .inr ⟨_, .inr rfl, word⟩
  · rintro (word | ⟨ds, marked, word⟩)
    · obtain ⟨⟨sign, digits, signed, positional, rfl⟩, fits⟩ := (isWord_iff (by decide)).1 word
      exact ⟨⟨[], 10, sign, digits, .none, signed, positional, rfl⟩, fits⟩
    · obtain ⟨⟨sign, digits, signed, positional, rfl⟩, fits⟩ := (isWord_iff (by decide)).1 word
      rcases marked with rfl | rfl
      · exact ⟨⟨['0', 'x'], 16, sign, digits, .small, signed, positional, rfl⟩, fits⟩
      · exact ⟨⟨['0', 'X'], 16, sign, digits, .capital, signed, positional, rfl⟩, fits⟩

/-! ### Where a numeral begins and ends -/

theorem Positional.exists_first (positional : Positional base cs n) :
    ∃ c rest, cs = c :: rest ∧ isBlank c = false := by
  induction positional with
  | digit digit _ => exact ⟨_, [], rfl, (digit_facts digit).2⟩
  | append _ _ _ ih =>
      obtain ⟨c, rest, rfl, visible⟩ := ih
      exact ⟨c, _, rfl, visible⟩

theorem Positional.exists_last (positional : Positional base cs n) :
    ∃ front c, cs = front ++ [c] ∧ isBlank c = false := by
  cases positional with
  | digit digit _ => exact ⟨[], _, rfl, (digit_facts digit).2⟩
  | append _ digit _ => exact ⟨_, _, rfl, (digit_facts digit).2⟩

/-- A numeral is what trimming leaves of it and the blanks around it. -/
theorem IsNumeral.trimBy_between (numeral : IsNumeral cs n) {front back : List Char}
    (blanks : ∀ c ∈ front ++ back, isBlank c = true) : trimBy isBlank (front ++ cs ++ back) = cs := by
  obtain ⟨mark, base, sign, digits, marked, signed, positional, rfl⟩ := numeral
  have first : ∃ c rest, mark ++ sign ++ digits = c :: rest ∧ isBlank c = false := by
    obtain ⟨c, rest, rfl, visible⟩ := positional.exists_first
    cases marked with
    | small => exact ⟨'0', _, rfl, by decide⟩
    | capital => exact ⟨'0', _, rfl, by decide⟩
    | none =>
        rcases signed with rfl | rfl
        · exact ⟨c, rest, rfl, visible⟩
        · exact ⟨'+', _, rfl, by decide⟩
  -- What is trimmed stops at the first and the last character of the numeral, which are not blank.
  obtain ⟨c, rest, begins, visible⟩ := first
  obtain ⟨digitsFront, d, rfl, visibleLast⟩ := positional.exists_last
  apply Text.trimBy_between
  · exact fun e he => blanks e (List.mem_append_left _ he)
  · exact fun e he => blanks e (List.mem_append_right _ he)
  · simp
  · intro e found
    rw [begins] at found
    cases found
    exact visible
  · intro e found
    rw [← List.append_assoc, List.getLast?_concat] at found
    cases found
    exact visibleLast

theorem declares_iff_numberIn {s : String} : Declares s.toList n ↔ NumberIn s n := by
  constructor
  · intro declares
    obtain ⟨front, back, split, blanks⟩ := exists_blanks_around isBlank s.toList
    obtain ⟨numeral, fits⟩ := isNumeral_iff.2 declares
    exact ⟨front, _, back, split, blanks, numeral, fits⟩
  · rintro ⟨front, cs, back, split, blanks, numeral, fits⟩
    rw [Declares, split, numeral.trimBy_between blanks]
    exact isNumeral_iff.1 ⟨numeral, fits⟩

theorem readNat_iff_numberIn {s : String} : readNat s = some n ↔ NumberIn s n := by
  rw [← declares_iff_numberIn, ← readNat_eq_some_iff, String.ofList_toList]

/-! ## Reading what was written -/

/-- A numeral on its own is read as its number. -/
theorem readNat_of_isNumeral {s : String} (numeral : IsNumeral s.toList n) (fits : n < 2 ^ 64) :
    readNat s = some n := by
  apply readNat_iff_numberIn.2
  exact ⟨[], s.toList, [], by simp, by simp, numeral, fits⟩

theorem readNat_decimal (fits : n < 2 ^ 64) : readNat (decimal n) = some n := by
  have digits : Positional 10 (digits 10 false n) n :=
    (positional_iff (by decide)).2
      ⟨isDigits_digits (by decide) (by decide) false n, valueOf_digits (by decide) (by decide) false n⟩
  apply readNat_of_isNumeral _ fits
  exact ⟨[], 10, [], _, .none, .inl rfl, digits, by simp [decimal]⟩

/-- The zeros in front of an id do not change it. -/
theorem readNat_hexId (fits : n < 2 ^ 64) : readNat (hexId n) = some n := by
  have written : IsDigits 16 (padded 4 (digits 16 false n)) :=
    isDigits_padded (by decide) (by decide) 4 (isDigits_digits (by decide) (by decide) false n)
  have value : valueOf 16 (padded 4 (digits 16 false n)) = n := by
    rw [valueOf_padded, valueOf_digits (by decide) (by decide)]
  have digits := (positional_iff (by decide)).2 ⟨written, value⟩
  apply readNat_of_isNumeral _ fits
  exact ⟨['0', 'x'], 16, [], _, .small, .inl rfl, digits, by simp [hexId]⟩

/-- A text is read as a number just when it holds that number, and what is written for a number is read
as that number. So no number is changed, and none above the limit is read. -/
theorem readNat_exact (s : String) :
    (∀ n, readNat s = some n ↔ NumberIn s n) ∧ (readNat s = none ↔ ∀ n, ¬ NumberIn s n) ∧
      (∀ n < 2 ^ 64, readNat (decimal n) = some n ∧ readNat (hexId n) = some n) ∧
      ∀ id : UInt32, readNat (idText id) = some id.toNat := by
  refine ⟨fun n => readNat_iff_numberIn, ?_, ?_, ?_⟩
  · rw [Option.eq_none_iff_forall_ne_some]
    exact forall_congr' fun n => not_congr readNat_iff_numberIn
  · intro n fits
    exact ⟨readNat_decimal fits, readNat_hexId fits⟩
  · intro id
    have small : id.toNat < 2 ^ 32 := id.toNat_lt
    exact readNat_hexId (by omega)

/-- The greatest number in both forms, and the number after it. -/
theorem readNat_exact_greatest :
    (2 ^ 64 - 1 < 2 ^ 64 ∧ readNat "18446744073709551615" = some (2 ^ 64 - 1) ∧
        readNat "0xffffffffffffffff" = some (2 ^ 64 - 1)) ∧
      NumberIn "\t 0X+00fF " 255 ∧ ∀ n, ¬ NumberIn "18446744073709551616" n := by
  obtain ⟨-, none, written, -⟩ := readNat_exact "18446744073709551616"
  obtain ⟨decimalForm, hexForm⟩ := written (2 ^ 64 - 1) (by decide)
  have decimalText : decimal (2 ^ 64 - 1) = "18446744073709551615" := by decide +kernel
  have hexText : hexId (2 ^ 64 - 1) = "0xffffffffffffffff" := by decide +kernel
  rw [decimalText] at decimalForm
  rw [hexText] at hexForm
  refine ⟨⟨by decide, decimalForm, hexForm⟩, ?_, none.1 (by decide +kernel)⟩
  exact ((readNat_exact "\t 0X+00fF ").1 255).1 (by decide +kernel)

end Numeral
end Text
end ClusterCodec

import ClusterCodec.Proofs.EmittedWords
import Mathlib.Algebra.Group.Int.Defs
import Mathlib.Algebra.Group.Nat.Defs

/-!
# DeclaredIntegers — what a declared integer denotes and how it is written

- `Numeral.IsDigits`, `Numeral.valueOf`: digits in a base and their value. `readDigits_eq_ok_iff` says
  that a number is read iff it consists of digits and its value is below the limit.
- `Declares`, `Denotes`: the number, or the signed number, that a declared text stands for;
  `readNat_eq_some_iff`, `denotedInt?_eq_some_iff`.
- `Magnitude`, `Spells`: integer literals of generated source with their values.
- `intLiteral?_spells`: a default has a literal iff it denotes an integer of the type. The literal has
  that value unless digits were copied from a text with a plus sign or a blank among them.
- `not_spells_plus`: such a text.
-/

namespace ClusterCodec
namespace Text
namespace Numeral

/-! ## Digits -/

/-- One or more digits. -/
def IsDigits (base : Nat) (cs : List Char) : Prop :=
  cs ≠ [] ∧ ∀ c ∈ cs, (digitValue? base c).isSome = true

/-- The value of a number that is continued with more digits. -/
def valueFrom (base value : Nat) (cs : List Char) : Nat :=
  cs.foldl (fun n c => n * base + (digitValue? base c).getD 0) value

def valueOf (base : Nat) (cs : List Char) : Nat :=
  valueFrom base 0 cs

variable {base : Nat} {cs : List Char} {n : Nat}

theorem le_valueFrom (positive : 0 < base) (value : Nat) (cs : List Char) :
    value ≤ valueFrom base value cs := by
  induction cs generalizing value with
  | nil =>
      exact Nat.le_refl value
  | cons c cs ih =>
      calc
        value ≤ value * base := Nat.le_mul_of_pos_right value positive
        _ ≤ value * base + (digitValue? base c).getD 0 := Nat.le_add_right _ _
        _ ≤ valueFrom base value (c :: cs) := ih _

/-- The limit is checked after every digit, which comes to the same as a check at the end. -/
theorem readDigitsFrom_eq_ok_iff (positive : 0 < base) {limit value : Nat} (small : value < limit) :
    readDigitsFrom base limit value cs = .ok n ↔
      (∀ c ∈ cs, (digitValue? base c).isSome = true) ∧ valueFrom base value cs = n ∧ n < limit := by
  induction cs generalizing value with
  | nil =>
      rw [readDigitsFrom, Except.ok.injEq]
      constructor
      · rintro rfl
        exact ⟨fun _ h => absurd h List.not_mem_nil, rfl, small⟩
      · rintro ⟨-, same, -⟩
        exact same
  | cons c cs ih =>
      rw [readDigitsFrom, List.forall_mem_cons]
      cases found : digitValue? base c with
      | none =>
          simp
      | some digit =>
          have continued : valueFrom base value (c :: cs) =
              valueFrom base (value * base + digit) cs := by
            rw [valueFrom, List.foldl_cons, found]
            rfl
          rw [continued]
          dsimp only
          split
          · next fits =>
              rw [ih fits]
              simp
          · next large =>
              -- No later digit makes the value small again.
              constructor
              · intro impossible
                cases impossible
              · rintro ⟨-, same, fits⟩
                have grows := le_valueFrom positive (value * base + digit) cs
                omega

theorem readDigits_eq_ok_iff (positive : 0 < base) {limit : Nat} (possible : 0 < limit) :
    readDigits base limit cs = .ok n ↔ IsDigits base cs ∧ valueOf base cs = n ∧ n < limit := by
  cases cs with
  | nil =>
      simp [readDigits, IsDigits]
  | cons c cs =>
      rw [readDigits, if_neg (by simp), readDigitsFrom_eq_ok_iff positive possible, IsDigits, valueOf]
      simp

/-- Digits after an optional plus sign. -/
def IsWord (base : Nat) (cs : List Char) (n : Nat) : Prop :=
  ∃ ds, (cs = ds ∨ cs = '+' :: ds) ∧ IsDigits base ds ∧ valueOf base ds = n ∧ n < 2 ^ 64

theorem digitValue?_of_le {larger digit : Nat} {c : Char} (le : base ≤ larger)
    (found : digitValue? base c = some digit) : digitValue? larger c = some digit := by
  rcases Option.filter_eq_some_iff.1 found with ⟨value, small⟩
  refine Option.filter_eq_some_iff.2 ⟨value, ?_⟩
  rw [decide_eq_true_iff] at small ⊢
  exact Nat.lt_of_lt_of_le small le

theorem readWord_eq_some_iff (positive : 0 < base) :
    readWord base cs = some n ↔ IsWord base cs n := by
  have word (ds : List Char) : (readDigits base (1 <<< 64) ds).toOption = some n ↔
      IsDigits base ds ∧ valueOf base ds = n ∧ n < 2 ^ 64 := by
    rw [← Nat.one_shiftLeft 64, ← readDigits_eq_ok_iff positive (by decide)]
    cases readDigits base (1 <<< 64) ds with
    | ok m => simp [Except.toOption]
    | error fault => simp [Except.toOption]
  rw [readWord.eq_def]
  split
  · next rest =>
      rw [word rest]
      constructor
      · intro read
        exact ⟨rest, .inr rfl, read⟩
      · rintro ⟨ds, rfl | same, digits, read⟩
        · -- The plus sign in front is no digit.
          have digit := digits.2 '+' List.mem_cons_self
          cases digit
        · cases same
          exact ⟨digits, read⟩
  · next unsigned =>
      rw [word cs]
      constructor
      · intro read
        exact ⟨cs, .inl rfl, read⟩
      · rintro ⟨ds, rfl | same, read⟩
        · exact read
        · exact absurd same (unsigned ds)

theorem isWord_iff_of_unsigned (unsigned : cs.head? ≠ some '+') :
    IsWord base cs n ↔ IsDigits base cs ∧ valueOf base cs = n ∧ n < 2 ^ 64 := by
  constructor
  · rintro ⟨ds, rfl | rfl, read⟩
    · exact read
    · exact absurd rfl unsigned
  · intro read
    exact ⟨cs, .inl rfl, read⟩

/-! ## Numbers with a mark -/

theorem afterHexMark?_eq_some_iff {ds : List Char} :
    afterHexMark? cs = some ds ↔ cs = '0' :: 'x' :: ds ∨ cs = '0' :: 'X' :: ds := by
  rw [afterHexMark?.eq_def]
  split
  · simp
  · simp
  · next small capital =>
      constructor
      · intro impossible
        cases impossible
      · rintro (rfl | rfl)
        · exact absurd rfl (small ds)
        · exact absurd rfl (capital ds)

/-- The number that a text stands for: between blanks, decimal, or hexadecimal after a mark. -/
def Declares (cs : List Char) (n : Nat) : Prop :=
  IsWord 10 (trimBy isBlank cs) n ∨
    ∃ ds, (trimBy isBlank cs = '0' :: 'x' :: ds ∨ trimBy isBlank cs = '0' :: 'X' :: ds) ∧
      IsWord 16 ds n

/-- The letter of the mark is no decimal digit. -/
theorem not_isWord_of_hexMark {ds : List Char} (mark : afterHexMark? cs = some ds) :
    ¬ IsWord 10 cs n := by
  rintro ⟨all, same | same, digits, -⟩
  · subst same
    rcases afterHexMark?_eq_some_iff.1 mark with rfl | rfl
    · have letter := digits.2 'x' (.tail _ (.head _))
      cases letter
    · have letter := digits.2 'X' (.tail _ (.head _))
      cases letter
  · subst same
    rcases afterHexMark?_eq_some_iff.1 mark with impossible | impossible
    · cases impossible
    · cases impossible

theorem readNat_eq_some_iff : readNat (String.ofList cs) = some n ↔ Declares cs n := by
  unfold readNat Declares
  rw [String.toList_ofList]
  dsimp only
  -- No decimal number has the mark, so the mark alone decides how a text is read.
  cases mark : afterHexMark? (trimBy isBlank cs) with
  | none =>
      rw [readWord_eq_some_iff (by decide)]
      constructor
      · exact .inl
      · rintro (read | ⟨ds, marked, -⟩)
        · exact read
        · rw [afterHexMark?_eq_some_iff.2 marked] at mark
          cases mark
  | some ds =>
      rw [readWord_eq_some_iff (by decide)]
      constructor
      · intro read
        exact .inr ⟨ds, afterHexMark?_eq_some_iff.1 mark, read⟩
      · rintro (read | ⟨rest, marked, read⟩)
        · exact absurd read (not_isWord_of_hexMark mark)
        · rw [afterHexMark?_eq_some_iff.2 marked] at mark
          cases mark
          exact read

theorem declares_trimBy : Declares (trimBy isBlank cs) n ↔ Declares cs n := by
  unfold Declares
  rw [Lexical.trimBy_trimBy]

/-! ## Writing a number -/

theorem digitValue?_digitChar {digit : Nat} (known : base ≤ 16) (small : digit < base)
    (upper : Bool) : digitValue? base (digitChar upper digit) = some digit := by
  have all : ∀ upper, ∀ d < 16, digitValue? 16 (digitChar upper d) = some d := by
    decide
  rcases Option.filter_eq_some_iff.1 (all upper digit (Nat.lt_of_lt_of_le small known)) with
    ⟨value, -⟩
  exact Option.filter_eq_some_iff.2 ⟨value, decide_eq_true small⟩

theorem isDigits_digits (atLeastTwo : 2 ≤ base) (known : base ≤ 16) (upper : Bool) (n : Nat) :
    IsDigits base (digits base upper n) := by
  refine ⟨Lexical.digits_ne_nil base upper n, ?_⟩
  intro c written
  rcases mem_digits atLeastTwo written with ⟨digit, small, rfl⟩
  rw [digitValue?_digitChar known small]
  rfl

theorem valueOf_concat (front : List Char) (c : Char) :
    valueOf base (front ++ [c]) = valueOf base front * base + (digitValue? base c).getD 0 := by
  rw [valueOf, valueFrom, List.foldl_append]
  rfl

theorem valueOf_digits (atLeastTwo : 2 ≤ base) (known : base ≤ 16) (upper : Bool) (n : Nat) :
    valueOf base (digits base upper n) = n := by
  fun_induction digits base upper n with
  | case1 n small =>
      have single : n < base := by
        omega
      calc
        valueOf base [digitChar upper n] =
            0 * base + (digitValue? base (digitChar upper n)).getD 0 := rfl
        _ = n := by rw [digitValue?_digitChar known single]; simp
  | case2 n large ih =>
      have last : n % base < base := Nat.mod_lt n (by omega)
      rw [valueOf_concat, ih, digitValue?_digitChar known last]
      exact Nat.div_add_mod' n base

/-- Leading zeros do not change a number. -/
theorem valueOf_padded (width : Nat) (cs : List Char) :
    valueOf base (padded width cs) = valueOf base cs := by
  have zero : (digitValue? base '0').getD 0 = 0 := by
    unfold digitValue?
    cases base <;> rfl
  have zeros (k : Nat) : valueFrom base 0 (List.replicate k '0') = 0 := by
    induction k with
    | zero => rfl
    | succ k ih =>
        rw [List.replicate_succ, valueFrom, List.foldl_cons, zero, Nat.zero_mul]
        exact ih
  calc
    valueOf base (padded width cs) =
        valueFrom base (valueFrom base 0 (List.replicate (width - cs.length) '0')) cs :=
      List.foldl_append
    _ = valueOf base cs := by rw [zeros]; rfl

theorem isDigits_padded (positive : 0 < base) (known : base ≤ 16) (width : Nat) {cs : List Char}
    (digits : IsDigits base cs) : IsDigits base (padded width cs) := by
  refine ⟨List.append_ne_nil_of_right_ne_nil _ digits.1, ?_⟩
  intro c written
  rcases List.mem_append.1 written with zero | given
  · have value : digitValue? base '0' = some 0 := digitValue?_digitChar known positive false
    rw [List.eq_of_mem_replicate zero, value]
    rfl
  · exact digits.2 c given

end Numeral
end Text

open Text Numeral

/-! ## Declared defaults -/

/-- The integer that a declared default stands for: a number, or the negative of the number after a
minus sign. -/
def Denotes (raw : List Char) (value : Int) : Prop :=
  (raw.head? ≠ some '-' ∧ ∃ n, Declares raw n ∧ value = n) ∨
    ∃ rest n, raw = '-' :: rest ∧ Declares rest n ∧ value = -(n : Int)

theorem map_readNat_eq_some_iff {cs : List Char} {f : Nat → Int} {value : Int} :
    (readNat (String.ofList cs)).map f = some value ↔ ∃ n, Declares cs n ∧ value = f n := by
  rw [Option.map_eq_some_iff]
  refine exists_congr fun n => ?_
  rw [readNat_eq_some_iff, eq_comm (a := f n)]

theorem splitSign_of_unsigned {raw : List Char} (unsigned : raw.head? ≠ some '-') :
    splitSign raw = (false, raw) := by
  rw [splitSign.eq_def]
  split
  · exact absurd rfl unsigned
  · rfl

/-- The blanks after a minus sign are dropped before the number is read, which drops them itself. -/
theorem denotedInt?_eq_some_iff {raw : List Char} {value : Int} :
    denotedInt? raw = some value ↔ Denotes raw value := by
  unfold Denotes
  -- A minus sign is looked for before the blanks are dropped, so it counts only as the first character.
  by_cases signed : raw.head? = some '-'
  · rcases List.head?_eq_some_iff.1 signed with ⟨rest, rfl⟩
    have negated : denotedInt? ('-' :: rest) =
        (readNat (String.ofList (trimBy isBlank rest))).map fun (n : Nat) => -(n : Int) := rfl
    rw [negated, map_readNat_eq_some_iff]
    constructor
    · rintro ⟨n, number, same⟩
      exact .inr ⟨rest, n, rfl, declares_trimBy.1 number, same⟩
    · rintro (⟨unsigned, -⟩ | ⟨_, n, whole, number, same⟩)
      · exact absurd rfl unsigned
      · cases whole
        exact ⟨n, declares_trimBy.2 number, same⟩
  · have read : denotedInt? raw = (readNat (String.ofList raw)).map fun (n : Nat) => (n : Int) := by
      rw [denotedInt?, splitSign_of_unsigned signed]
      rfl
    rw [read, map_readNat_eq_some_iff]
    constructor
    · intro number
      exact .inl ⟨signed, number⟩
    · rintro (⟨-, number⟩ | ⟨rest, _, rfl, -⟩)
      · exact number
      · exact absurd rfl signed

/-- The integers of a type, by its width. -/
def IntType.Holds (t : IntType) (value : Int) : Prop :=
  if t.isSigned then -2 ^ (t.bits - 1) ≤ value ∧ value < 2 ^ (t.bits - 1)
  else 0 ≤ value ∧ value < 2 ^ t.bits

instance (t : IntType) (value : Int) : Decidable (t.Holds value) :=
  inferInstanceAs (Decidable (if t.isSigned then _ ∧ _ else _ ∧ _))

theorem IntType.contains_iff {t : IntType} {value : Int} :
    t.contains value = true ↔ t.Holds value := by
  unfold contains Holds
  rw [Bool.and_eq_true, decide_eq_true_iff, decide_eq_true_iff]
  cases t <;> simp [least, greatest, isSigned, bits] <;> omega

/-! ## Literals -/

/-- An unsigned integer literal and its value. -/
inductive Magnitude : List Char → Nat → Prop where
  | decimal {ds : List Char} : IsDigits 10 ds → Magnitude ds (valueOf 10 ds)
  | hexadecimal {ds : List Char} : IsDigits 16 ds → Magnitude ('0' :: 'x' :: ds) (valueOf 16 ds)

/-- An integer literal, which may begin with a minus sign, and its value. -/
inductive Spells : List Char → Int → Prop where
  | unsigned {cs : List Char} {n : Nat} : Magnitude cs n → Spells cs n
  | minus {cs : List Char} {n : Nat} : Magnitude cs n → Spells ('-' :: cs) (-(n : Int))

theorem magnitude_decimal (n : Nat) : Magnitude (decimal n).toList n := by
  have written := Magnitude.decimal (isDigits_digits (by decide) (by decide) false n)
  rwa [valueOf_digits (by decide) (by decide),
    ← String.toList_ofList (l := digits 10 false n)] at written

theorem spells_signedDecimal (value : Int) : Spells (signedDecimal value).toList value := by
  cases value with
  | ofNat n =>
      exact .unsigned (magnitude_decimal n)
  | negSucc n =>
      have written := Spells.minus (magnitude_decimal (n + 1))
      have text : (signedDecimal (Int.negSucc n)).toList = '-' :: (decimal (n + 1)).toList :=
        String.toList_append
      rwa [text]

/-! ### What a literal is made of -/

theorem toNat_of_isHexDigit {c : Char} (digit : Lexical.isHexDigit c = true) :
    48 ≤ c.toNat ∧ c.toNat ≤ 102 := by
  have range {low high : Char} (h : (low ≤ c && c ≤ high) = true) :
      low.toNat ≤ c.toNat ∧ c.toNat ≤ high.toNat := by
    rw [Bool.and_eq_true, decide_eq_true_iff, decide_eq_true_iff] at h
    exact h
  unfold Lexical.isHexDigit digitValue? at digit
  dsimp only at digit
  split at digit
  · next decimal =>
      have bounds := range decimal
      exact ⟨bounds.1, Nat.le_trans bounds.2 (by decide)⟩
  · split at digit
    · next small =>
        have bounds := range small
        exact ⟨Nat.le_trans (by decide) bounds.1, bounds.2⟩
    · split at digit
      · next capital =>
          have bounds := range capital
          exact ⟨Nat.le_trans (by decide) bounds.1, Nat.le_trans bounds.2 (by decide)⟩
      · cases digit

/-- The characters that literals are written with. -/
def IsLiteralChar (c : Char) : Prop :=
  c = '-' ∨ c = 'x' ∨ Lexical.isHexDigit c = true

theorem isLiteralChar_of_magnitude {cs : List Char} {n : Nat} (h : Magnitude cs n) :
    ∀ c ∈ cs, IsLiteralChar c := by
  intro c written
  cases h with
  | decimal digits =>
      rcases Option.isSome_iff_exists.1 (digits.2 c written) with ⟨digit, found⟩
      have hexadecimal : digitValue? 16 c = some digit := digitValue?_of_le (by decide) found
      exact .inr (.inr (Option.isSome_iff_exists.2 ⟨digit, hexadecimal⟩))
  | hexadecimal digits =>
      rcases List.mem_cons.1 written with rfl | written
      · exact .inr (.inr (by decide))
      · rcases List.mem_cons.1 written with rfl | written
        · exact .inr (.inl rfl)
        · exact .inr (.inr (digits.2 c written))

theorem isLiteralChar_of_spells {cs : List Char} {value : Int} (h : Spells cs value) :
    ∀ c ∈ cs, IsLiteralChar c := by
  cases h with
  | unsigned magnitude =>
      exact isLiteralChar_of_magnitude magnitude
  | minus magnitude =>
      intro c written
      rcases List.mem_cons.1 written with rfl | written
      · exact .inl rfl
      · exact isLiteralChar_of_magnitude magnitude c written

theorem not_isLiteralChar_of_isBlank {c : Char} (blank : isBlank c = true) : ¬ IsLiteralChar c := by
  rintro (rfl | rfl | digit)
  · revert blank
    decide
  · revert blank
    decide
  · have bounds := toNat_of_isHexDigit digit
    simp [isBlank] at blank
    omega

/-! ## Copied digits -/

/-- A text with a hexadecimal mark at its front, whose digits have a plus sign before them or a blank
after them. -/
def Stray (raw : List Char) : Prop :=
  ∃ digits ∈ afterHexMark? raw, digits.head? = some '+' ∨ digits.getLast?.any isBlank = true

instance (raw : List Char) : Decidable (Stray raw) :=
  inferInstanceAs (Decidable (∃ digits ∈ afterHexMark? raw, _ ∨ _))

/-- Without stray characters no blank stands around a text with a mark. -/
theorem trimBy_isBlank_of_not_stray {raw digits : List Char}
    (mark : afterHexMark? raw = some digits) (neat : ¬ Stray raw) : trimBy isBlank raw = raw := by
  have noBlank : digits.getLast?.any isBlank = false := by
    rw [← Bool.not_eq_true]
    exact fun blank => neat ⟨digits, mark, .inr blank⟩
  -- In front stands the zero of the mark, and at the end a digit or the mark itself.
  apply trimBy_eq_self
  · intro c first
    rcases afterHexMark?_eq_some_iff.1 mark with rfl | rfl
    · cases first
      decide
    · cases first
      decide
  · intro c last
    cases digits with
    | nil =>
        rcases afterHexMark?_eq_some_iff.1 mark with rfl | rfl
        · cases last
          decide
        · cases last
          decide
    | cons d ds =>
        have ends : (d :: ds).getLast? = some c := by
          rcases afterHexMark?_eq_some_iff.1 mark with rfl | rfl
          · exact last
          · exact last
        rw [ends] at noBlank
        exact noBlank

/-- Without stray characters all that follows the mark is the number. -/
theorem isDigits_of_denotes {raw digits : List Char} {value : Int}
    (mark : afterHexMark? raw = some digits) (neat : ¬ Stray raw) (denoted : Denotes raw value) :
    IsDigits 16 digits ∧ value = valueOf 16 digits := by
  have unsigned : digits.head? ≠ some '+' := fun plus => neat ⟨digits, mark, .inl plus⟩
  rcases denoted with ⟨-, n, number, rfl⟩ | ⟨rest, _, rfl, -⟩
  · rw [Declares, trimBy_isBlank_of_not_stray mark neat] at number
    rcases number with decimal | ⟨ds, again, word⟩
    · exact absurd decimal (not_isWord_of_hexMark mark)
    · rw [← afterHexMark?_eq_some_iff, mark] at again
      cases again
      rcases (isWord_iff_of_unsigned unsigned).1 word with ⟨hexadecimal, same, -⟩
      rw [same]
      exact ⟨hexadecimal, rfl⟩
  · cases mark

theorem text_hexadecimal (digits : List Char) :
    (IntLiteral.hexadecimal digits).text.toList = '0' :: 'x' :: digits := by
  rw [IntLiteral.text, String.toList_append, String.toList_ofList (l := digits)]
  rfl

/-- How a value is written for a declared default. -/
def literalFor (raw : List Char) (value : Int) : IntLiteral :=
  ((afterHexMark? raw).map IntLiteral.hexadecimal).getD (.decimal value)

theorem spells_literalFor {raw : List Char} {value : Int} (neat : ¬ Stray raw)
    (denotes : Denotes raw value) : Spells (literalFor raw value).text.toList value := by
  unfold literalFor
  cases mark : afterHexMark? raw with
  | none =>
      exact spells_signedDecimal value
  | some digits =>
      rcases isDigits_of_denotes mark neat denotes with ⟨hexadecimal, same⟩
      rw [same, Option.map_some, Option.getD_some, text_hexadecimal]
      exact .unsigned (.hexadecimal hexadecimal)

theorem not_spells_literalFor {raw : List Char} (stray : Stray raw) (value other : Int) :
    ¬ Spells (literalFor raw value).text.toList other := by
  rcases stray with ⟨digits, mark, outside⟩
  rw [literalFor, mark, Option.map_some, Option.getD_some, text_hexadecimal]
  intro spells
  have characters : ∀ c ∈ digits, IsLiteralChar c := fun c written =>
    isLiteralChar_of_spells spells c (.tail _ (.tail _ written))
  rcases outside with plus | trailing
  · have inside := characters '+' (List.mem_of_head? plus)
    revert inside
    unfold IsLiteralChar
    decide
  · rcases (Option.any_eq_true _ _).1 trailing with ⟨c, last, blank⟩
    exact not_isLiteralChar_of_isBlank blank (characters c (List.mem_of_getLast? last))

theorem denotes_unique {raw : List Char} {value other : Int} (denotes : Denotes raw value)
    (too : Denotes raw other) : other = value := by
  rw [← denotedInt?_eq_some_iff] at denotes too
  exact Option.some.inj (too.symm.trans denotes)

theorem intLiteral?_eq_some_iff {raw : List Char} {type : IntType} {literal : IntLiteral} :
    intLiteral? raw type = some literal ↔
      ∃ value, Denotes raw value ∧ type.Holds value ∧ literal = literalFor raw value := by
  have chosen : intLiteral? raw type = (denotedInt? raw).bind fun value =>
      if type.contains value then some (literalFor raw value) else none := by
    unfold intLiteral? literalFor
    cases afterHexMark? raw <;> rfl
  rw [chosen, Option.bind_eq_some_iff]
  refine exists_congr fun value => ?_
  rw [denotedInt?_eq_some_iff, Option.ite_none_right_eq_some, IntType.contains_iff,
    Option.some.injEq, eq_comm (a := literalFor raw value)]

/-- A default has a literal iff it denotes an integer of the type. The literal has its value, unless
the default begins with a hexadecimal mark and has a plus sign or a blank beside the digits, which
are copied: then the text is no literal. -/
theorem intLiteral?_spells (raw : List Char) (type : IntType) :
    (intLiteral? raw type = none ↔ ¬ ∃ value, Denotes raw value ∧ type.Holds value) ∧
      ∀ literal, intLiteral? raw type = some literal →
        ∃ value, (∀ other, Denotes raw other ↔ other = value) ∧ type.Holds value ∧
          (¬ Stray raw → Spells literal.text.toList value) ∧
          (Stray raw → ∀ other, ¬ Spells literal.text.toList other) := by
  refine ⟨?_, ?_⟩
  · rw [Option.eq_none_iff_forall_ne_some]
    constructor
    · rintro nothing ⟨value, denotes, holds⟩
      exact nothing _ (intLiteral?_eq_some_iff.2 ⟨value, denotes, holds, rfl⟩)
    · intro nothing literal written
      rcases intLiteral?_eq_some_iff.1 written with ⟨value, denotes, holds, -⟩
      exact nothing ⟨value, denotes, holds⟩
  · intro literal written
    rcases intLiteral?_eq_some_iff.1 written with ⟨value, denotes, holds, rfl⟩
    refine ⟨value, ?_, holds, ?_, ?_⟩
    · intro other
      constructor
      · exact denotes_unique denotes
      · rintro rfl
        exact denotes
    · exact fun neat => spells_literalFor neat denotes
    · exact fun stray => not_spells_literalFor stray value

theorem intLiteral?_spells_marked :
    intLiteral? "0X1f".toList .u8 = some (.hexadecimal ['1', 'f']) ∧ Spells "0x1f".toList 31 ∧
      intLiteral? "-0x80".toList .i8 = some (.decimal (-128)) ∧ Spells "-128".toList (-128) := by
  have mark : intLiteral? "0X1f".toList .u8 = some (.hexadecimal ['1', 'f']) := by
    decide +kernel
  have signed : intLiteral? "-0x80".toList .i8 = some (.decimal (-128)) := by
    decide +kernel
  rcases (intLiteral?_spells "0X1f".toList .u8).2 _ mark with ⟨value, only, -, spells, -⟩
  rcases (intLiteral?_spells "-0x80".toList .i8).2 _ signed with ⟨other, onlySigned, -, spellsSigned, -⟩
  have value_eq : (31 : Int) = value := (only 31).1 (denotedInt?_eq_some_iff.1 (by decide +kernel))
  have other_eq : (-128 : Int) = other :=
    (onlySigned (-128)).1 (denotedInt?_eq_some_iff.1 (by decide +kernel))
  subst value_eq other_eq
  have text : (IntLiteral.decimal (-128)).text = "-128" := by
    decide +kernel
  rw [text] at spellsSigned
  exact ⟨mark, spells (by decide +kernel), signed, spellsSigned (by decide +kernel)⟩

/-- A plus sign after the mark is read as a sign of the number, and copied with its digits. -/
theorem not_spells_plus :
    Denotes "0x+5".toList 5 ∧ IntType.u8.Holds 5 ∧
      intLiteral? "0x+5".toList .u8 = some (.hexadecimal ['+', '5']) ∧
      (IntLiteral.hexadecimal ['+', '5']).text = "0x+5" ∧
      ∀ value, ¬ Spells "0x+5".toList value := by
  have denotes : Denotes "0x+5".toList 5 := denotedInt?_eq_some_iff.1 (by decide +kernel)
  have stray : Stray "0x+5".toList := ⟨['+', '5'], rfl, .inl rfl⟩
  refine ⟨denotes, by decide, by decide +kernel, rfl, ?_⟩
  exact not_spells_literalFor stray 5

end ClusterCodec

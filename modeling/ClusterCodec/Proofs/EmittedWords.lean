import ClusterCodec.Emit.AttributeDispatch
import ClusterCodec.Emit.DefaultValue
import ClusterCodec.Proofs.Templates
import ClusterCodec.Resolve.Repetition
import Mathlib.Data.List.DropRight
import Mathlib.Tactic.SplitIfs

/-!
# EmittedWords — identifiers, numbers and strings of generated source

- `IsWord`: a nonempty text of ASCII letters, digits and underscores that begins with no digit.
- `isWord_ofField`, `isWord_ofType`, `isWord_ofVariant`, `isWord_ofConstant`: every identifier is a
  word.
- `atom_decimal`, `atom_hexId`, `atom_hexMask`, `atom_intLiteral`: numbers are complete tokens.
- `fits_quote`, `fits_asciiEscape`: what is put into a string stays inside it.
- `OneLine`, `fits_oneLine`: what is put into a comment stays inside it.
-/

namespace ClusterCodec
namespace Lexical

open Text LexState

/-! ## Words -/

/-- A nonempty text of ASCII letters, digits and underscores that begins with no digit. -/
def IsWord (text : String) : Prop :=
  ∃ c cs, text.toList = c :: cs ∧ isWordStart c = true ∧ ∀ d ∈ cs, isWordPart d = true

instance (text : String) : Decidable (IsWord text) :=
  decidable_of_iff
    (text.toList.head?.any isWordStart = true ∧ ∀ c ∈ text.toList, isWordPart c = true) <| by
    rw [IsWord]
    cases text.toList with
    | nil => simp
    | cons c cs =>
        simp only [List.head?_cons, Option.any_some, List.mem_cons, forall_eq_or_imp,
          List.cons.injEq]
        constructor
        · rintro ⟨start, -, parts⟩
          exact ⟨c, cs, ⟨rfl, rfl⟩, start, parts⟩
        · rintro ⟨_, _, ⟨rfl, rfl⟩, start, parts⟩
          exact ⟨start, isWordPart_of_isWordStart start, parts⟩

theorem run_word (opened : List Bracket) {cs : List Char} (parts : ∀ c ∈ cs, isWordPart c = true) :
    run ⟨.word, opened⟩ cs = some ⟨.word, opened⟩ :=
  run_of_continue opened fun c inside => if_pos (parts c inside)

namespace IsWord

variable {text : String}

theorem wordText (word : IsWord text) : WordText text := by
  rcases word with ⟨c, cs, split, start, parts⟩
  intro opened
  refine ⟨.word, .refl, ?_⟩
  rw [split, run, step_of_isWordStart start, Option.bind_some]
  exact run_word opened parts

theorem parts (word : IsWord text) : ∀ c ∈ text.toList, isWordPart c = true := by
  rcases word with ⟨c, cs, split, start, parts⟩
  rw [split]
  intro d hd
  rcases List.mem_cons.1 hd with rfl | hd
  · exact isWordPart_of_isWordStart start
  · exact parts d hd

theorem append (word : IsWord text) {tail : String}
    (more : ∀ c ∈ tail.toList, isWordPart c = true) :
    IsWord (text ++ tail) := by
  rcases word with ⟨c, cs, split, start, parts⟩
  refine ⟨c, cs ++ tail.toList, ?_, start, ?_⟩
  · rw [String.toList_append, split, List.cons_append]
  · intro d hd
    rcases List.mem_append.1 hd with hd | hd
    · exact parts d hd
    · exact more d hd

/-- Word characters are a word unless a digit stands at their front. -/
theorem of_parts {cs : List Char} (nonempty : cs ≠ []) (parts : ∀ c ∈ cs, isWordPart c = true)
    (noDigit : cs.head?.any Char.isDigit = false) : IsWord (String.ofList cs) := by
  cases cs with
  | nil => exact absurd rfl nonempty
  | cons c cs =>
      refine ⟨c, cs, String.toList_ofList, ?_, fun d hd => parts d (List.mem_cons_of_mem c hd)⟩
      have part := parts c List.mem_cons_self
      have digit : c.isDigit = false := noDigit
      rw [isWordPart_iff, isAlphanum_iff, digit] at part
      simpa [isWordStart_iff] using part

theorem underscore {cs : List Char} (parts : ∀ c ∈ cs, isWordPart c = true) :
    IsWord (String.ofList ('_' :: cs)) :=
  ⟨'_', cs, String.toList_ofList, by decide, parts⟩

theorem escapeReserved (word : IsWord text) : IsWord (Name.escapeReserved text) := by
  rw [Name.escapeReserved]
  split
  · exact word.append (by decide)
  · exact word

end IsWord

/-! ## Identifiers -/

section Identifiers

open Name Identifier

theorem mem_of_mem_squeeze {cs : List Char} {c : Char} (h : c ∈ squeeze cs) : c ∈ cs := by
  fun_induction squeeze cs with
  | case1 a b cs both ih => exact List.mem_cons_of_mem a (ih h)
  | case2 a b cs other ih =>
      rcases List.mem_cons.1 h with rfl | h
      · exact List.mem_cons_self
      · exact List.mem_cons_of_mem a (ih h)
  | case3 cs other => exact h

theorem isWordPart_of_mem_separated {f : Char → Char} (parts : ∀ c, isWordPart (f c) = true)
    {cs : List Char} {c : Char} (h : c ∈ separated f cs) : isWordPart c = true := by
  rcases List.mem_map.1 (mem_of_mem_squeeze (mem_of_mem_trimBy h)) with ⟨d, -, rfl⟩
  exact parts d

theorem isAlphanum_toUpper {c : Char} (h : c.isAlphanum = true) : c.toUpper.isAlphanum = true := by
  cases small : c.isLower with
  | true =>
      -- The small letters are few enough to look at each one.
      have all : ∀ n < 26, (Char.ofNat (97 + n)).toUpper.isAlphanum = true := by decide
      have range := isLower_iff.1 small
      have same : c = Char.ofNat (97 + (c.toNat - 97)) := by
        rw [Nat.add_sub_cancel' range.1, Char.ofNat_toNat]
      rw [same]
      exact all _ (by omega)
  | false =>
      have same : c.toUpper = c := by
        refine dif_neg fun range => ?_
        have lower : c.isLower = true := isLower_iff.2 range
        rw [small] at lower
        cases lower
      rwa [same]

theorem isWordPart_smallOrUnderscore (c : Char) : isWordPart (smallOrUnderscore c) = true := by
  rw [smallOrUnderscore]
  split
  · next small =>
      rcases Bool.or_eq_true_iff.1 small with lower | digit
      · exact isWordPart_of_isAlphanum (isAlphanum_iff.2 (.inl (isAlpha_iff.2 (.inr lower))))
      · exact isWordPart_of_isDigit digit
  · decide

theorem isWordPart_capitalOrUnderscore (c : Char) : isWordPart (capitalOrUnderscore c) = true := by
  rw [capitalOrUnderscore]
  split
  · next alphanum => exact isWordPart_of_isAlphanum (isAlphanum_toUpper alphanum)
  · decide

theorem isWord_ofField (name : String) : IsWord (ofField name) := by
  have parts : ∀ c ∈ smallWords name, isWordPart c = true := fun c hc =>
    isWordPart_of_mem_separated isWordPart_smallOrUnderscore hc
  rw [ofField]
  split
  · exact (by decide : IsWord "field")
  · next nonempty =>
      split
      · exact .underscore parts
      -- The underscore of a reserved word is put behind the word, so the front stays as it is.
      · next noDigit =>
          have nonempty : smallWords name ≠ [] := fun none => nonempty (by rw [none]; rfl)
          exact (IsWord.of_parts nonempty parts (Bool.eq_false_iff.2 noDigit)).escapeReserved

theorem isWord_ofConstant (name : String) : IsWord (ofConstant name) := by
  have parts : ∀ c ∈ separated capitalOrUnderscore (snakeChars name.toList), isWordPart c = true :=
    fun c hc => isWordPart_of_mem_separated isWordPart_capitalOrUnderscore hc
  rw [ofConstant]
  split
  · exact (by decide : IsWord "UNKNOWN")
  · next nonempty =>
      split
      · refine IsWord.append (by decide : IsWord "BIT_") ?_
        rwa [String.toList_ofList]
      · next noDigit =>
          have nonempty : separated capitalOrUnderscore (snakeChars name.toList) ≠ [] :=
            fun none => nonempty (by rw [none]; rfl)
          exact .of_parts nonempty parts (Bool.eq_false_iff.2 noDigit)

theorem mem_of_mem_runsBetween {separator : Char → Bool} {cs run : List Char}
    (listed : run ∈ runsBetween separator cs) : ∀ c ∈ run, separator c = false := by
  induction cs generalizing run with
  | nil => cases listed
  | cons c cs ih =>
      rw [runsBetween.eq_def] at listed
      dsimp only at listed
      split at listed
      · exact ih listed
      · next inWord =>
          have first : separator c = false := Bool.eq_false_iff.2 inWord
          -- A character that is no separator joins the run behind it or is a run of its own.
          split at listed
          · next d ds head runs found =>
              have headInWord := ih (found ▸ List.mem_cons_self)
              split at listed
              · rcases List.mem_cons.1 listed with rfl | listed
                · simpa using first
                · exact ih (found ▸ listed)
              · rcases List.mem_cons.1 listed with rfl | listed
                · simpa using ⟨first, headInWord⟩
                · exact ih (found ▸ List.mem_cons_of_mem head listed)
          · rcases List.mem_cons.1 listed with rfl | listed
            · simpa using first
            · exact ih listed

theorem isAlphanum_joinedWords {cs : List Char} : ∀ c ∈ joinedWords cs, c.isAlphanum = true := by
  intro c hc
  rcases List.mem_flatMap.1 hc with ⟨run, listed, hc⟩
  have alphanum : ∀ d ∈ run, d.isAlphanum = true := fun d hd => by
    simpa using mem_of_mem_runsBetween listed d hd
  cases run with
  | nil => cases hc
  | cons d run =>
      rcases List.mem_cons.1 hc with rfl | hc
      · exact isAlphanum_toUpper (alphanum d List.mem_cons_self)
      · exact alphanum c (List.mem_cons_of_mem d hc)

theorem isWordPart_joinedWords {cs : List Char} : ∀ c ∈ joinedWords cs, isWordPart c = true :=
  fun c hc => isWordPart_of_isAlphanum (isAlphanum_joinedWords c hc)

theorem isWord_ofWords (cs : List Char) : IsWord (ofWords cs) := by
  rw [ofWords]
  split
  · exact (by decide : IsWord "Unknown")
  · next nonempty =>
      split
      · exact .underscore isWordPart_joinedWords
      · next noDigit =>
          have nonempty : joinedWords cs ≠ [] := fun none => nonempty (by rw [none]; rfl)
          exact (IsWord.of_parts nonempty isWordPart_joinedWords
            (Bool.eq_false_iff.2 noDigit)).escapeReserved

theorem isWord_ofType (name suffix : String) (keepSuffix : Bool) :
    IsWord (ofType name suffix keepSuffix) :=
  isWord_ofWords _

theorem isWord_ofVariant (name : String) : IsWord (ofVariant name) :=
  isWord_ofWords _

theorem isWord_typeName_enum (e : EnumDecl) : IsWord e.typeName := by
  rw [EnumDecl.typeName]
  exact isWord_ofType _ _ _

theorem isWord_typeName_bitmap (b : BitmapDecl) : IsWord b.typeName := by
  rw [BitmapDecl.typeName]
  exact isWord_ofType _ _ _

theorem isWord_typeName_struct (d : StructDecl) : IsWord d.typeName := by
  rw [StructDecl.typeName]
  exact isWord_ofType _ _ _

theorem isWord_ident (f : Field) : IsWord f.ident := by
  rw [Field.ident]
  exact isWord_ofField f.name

end Identifiers

/-! ## Numbers -/

section Numbers

open Numeral

theorem run_digits (opened : List Bracket) {cs : List Char} (digits : ∀ c ∈ cs, c.isDigit = true) :
    run ⟨.digits, opened⟩ cs = some ⟨.digits, opened⟩ :=
  run_of_continue opened fun c inside => if_pos (digits c inside)

theorem start?_of_isDigit {c : Char} (digit : c.isDigit = true) :
    Mode.start? c = some (if c = '0' then .zero else .digits) := by
  have all : ∀ d ∈ ' ' :: '\n' :: marks, d.isDigit = false := by decide
  have other : ¬ (c = ' ' ∨ c = '\n' ∨ c ∈ marks) := by
    intro inside
    rw [all c (by simpa using inside)] at digit
    cases digit
  have noStart : ¬ isWordStart c = true := by
    intro start
    rw [isDigit_eq_false_of_isWordStart start] at digit
    cases digit
  rw [Mode.start?, if_neg other, if_neg noStart, if_pos digit]
  split <;> rfl

/-- Decimal digits are a number. -/
theorem atom_of_digits {cs : List Char} (nonempty : cs ≠ []) (digits : ∀ c ∈ cs, c.isDigit = true) :
    Atom (String.ofList cs) := by
  cases cs with
  | nil => exact absurd rfl nonempty
  | cons c cs =>
      intro opened
      have digit := digits c List.mem_cons_self
      have rest : ∀ d ∈ cs, d.isDigit = true := fun d hd => digits d (List.mem_cons_of_mem c hd)
      have first : step ⟨.ground, opened⟩ c =
          some ⟨if c = '0' then .zero else .digits, opened⟩ := by
        rw [step_of_isWordPart (isWordPart_of_isDigit digit), start?_of_isDigit digit]
        rfl
      rw [String.toList_ofList, run, first, Option.bind_some]
      -- A zero at the front could be the front of a hexadecimal number, but no mark follows it.
      split
      · cases cs with
        | nil => exact ⟨.zero, .zero, rfl⟩
        | cons d cs =>
            have digit := rest d List.mem_cons_self
            have noMark : d ≠ 'x' := by
              rintro rfl
              cases digit
            have continued : Mode.zero.continue? d = some .digits := by
              rw [Mode.continue?, if_neg noMark, if_pos digit]
            refine ⟨.digits, .digits, ?_⟩
            rw [run, step_of_continue continued, Option.bind_some]
            exact run_digits opened fun e he => rest e (List.mem_cons_of_mem d he)
      · exact ⟨.digits, .digits, run_digits opened rest⟩

theorem digits_ne_nil (base : Nat) (upper : Bool) (n : Nat) : digits base upper n ≠ [] := by
  unfold digits
  split <;> simp

theorem isDigit_of_mem_decimal {n : Nat} {c : Char} (h : c ∈ (decimal n).toList) :
    c.isDigit = true := by
  rw [decimal, String.toList_ofList] at h
  rcases mem_digits (by decide) h with ⟨d, small, rfl⟩
  have all : ∀ d < 10, (digitChar false d).isDigit = true := by decide
  exact all d small

theorem atom_decimal (n : Nat) : Atom (decimal n) := by
  refine atom_of_digits (digits_ne_nil _ _ _) fun c hc => ?_
  refine isDigit_of_mem_decimal (n := n) ?_
  rwa [decimal, String.toList_ofList]

/-- A word with a number at its end is a word. -/
theorem IsWord.append_decimal {text : String} (word : IsWord text) (n : Nat) :
    IsWord (text ++ decimal n) :=
  word.append fun _ hc => isWordPart_of_isDigit (isDigit_of_mem_decimal hc)

theorem atom_signedDecimal (n : Int) : Atom (signedDecimal n) := by
  have sign : Fits .ground .ground "-" := .of_run (by decide)
  cases n with
  | ofNat m => exact atom_decimal m
  | negSucc m => exact sign.append (atom_decimal (m + 1))

theorem run_hexDigits (opened : List Bracket) {cs : List Char}
    (digits : ∀ c ∈ cs, isHexDigit c = true) :
    run ⟨.hexDigits, opened⟩ cs = some ⟨.hexDigits, opened⟩ :=
  run_of_continue opened fun c inside => if_pos (digits c inside)

/-- Hexadecimal digits after the mark are a number. -/
theorem atom_hexadecimal {cs : List Char} (nonempty : cs ≠ [])
    (digits : ∀ c ∈ cs, isHexDigit c = true) : Atom ("0x" ++ String.ofList cs) := by
  have mark : Fits .ground .hexMark "0x" := .of_run (by decide)
  refine (mark.append (c := .hexDigits) fun opened => ⟨.hexDigits, .refl, ?_⟩).weaken .hexDigits
  cases cs with
  | nil => exact absurd rfl nonempty
  | cons c cs =>
      have continued : Mode.hexMark.continue? c = some .hexDigits :=
        if_pos (digits c List.mem_cons_self)
      rw [String.toList_ofList, run, step_of_continue continued, Option.bind_some]
      exact run_hexDigits opened fun d hd => digits d (List.mem_cons_of_mem c hd)

theorem isHexDigit_of_mem_padded {width n : Nat} {upper : Bool} {c : Char}
    (h : c ∈ padded width (digits 16 upper n)) : isHexDigit c = true := by
  rcases List.mem_append.1 h with zero | h
  · rw [List.eq_of_mem_replicate zero]
    decide
  · rcases mem_digits (by decide) h with ⟨d, small, rfl⟩
    have all : ∀ upper, ∀ d < 16, isHexDigit (digitChar upper d) = true := by decide
    exact all upper d small

theorem padded_ne_nil (width n : Nat) (upper : Bool) : padded width (digits 16 upper n) ≠ [] :=
  List.append_ne_nil_of_right_ne_nil _ (digits_ne_nil _ _ _)

theorem atom_hexId (n : Nat) : Atom (hexId n) :=
  atom_hexadecimal (padded_ne_nil _ _ _) fun _ => isHexDigit_of_mem_padded

theorem atom_hexMask (n : Nat) : Atom (hexMask n) :=
  atom_hexadecimal (padded_ne_nil _ _ _) fun _ => isHexDigit_of_mem_padded

/-! ### Declared defaults -/

theorem isHexDigit_of_readDigitsFrom {limit value result : Nat} {cs : List Char}
    (read : readDigitsFrom 16 limit value cs = .ok result) : ∀ c ∈ cs, isHexDigit c = true := by
  induction cs generalizing value with
  | nil => exact fun c hc => absurd hc List.not_mem_nil
  | cons c cs ih =>
      rw [readDigitsFrom] at read
      split at read
      · cases read
      · next digit found =>
          dsimp only at read
          split at read
          · intro d hd
            rcases List.mem_cons.1 hd with rfl | hd
            · rw [isHexDigit, found]
              rfl
            · exact ih read d hd
          · cases read

/-- A hexadecimal number without a sign consists of digits. -/
theorem isHexDigit_of_readWord {cs : List Char} {n : Nat} (read : readWord 16 cs = some n)
    (unsigned : cs.head? ≠ some '+') : cs ≠ [] ∧ ∀ c ∈ cs, isHexDigit c = true := by
  have digits : readDigits 16 (1 <<< 64) cs = .ok n := by
    rw [readWord.eq_def] at read
    split at read
    · exact absurd rfl unsigned
    · change (readDigits 16 (1 <<< 64) cs).toOption = some n at read
      cases outcome : readDigits 16 (1 <<< 64) cs with
      | ok m =>
          rw [outcome] at read
          cases read
          rfl
      | error fault =>
          rw [outcome] at read
          cases read
  rw [readDigits] at digits
  split at digits
  · cases digits
  · next nonempty =>
      refine ⟨?_, isHexDigit_of_readDigitsFrom digits⟩
      rintro rfl
      exact nonempty rfl

theorem trimBy_trimBy (drop : Char → Bool) (cs : List Char) :
    trimBy drop (trimBy drop cs) = trimBy drop cs := by
  have front : (trimBy drop cs).dropWhile drop = trimBy drop cs := by
    rw [List.dropWhile_eq_self_iff]
    intro nonempty
    have shorter : trimBy drop cs <+: cs.dropWhile drop := List.rdropWhile_prefix drop _
    have inFront : 0 < (cs.dropWhile drop).length := Nat.lt_of_lt_of_le nonempty shorter.length_le
    rw [shorter.getElem nonempty]
    exact List.dropWhile_get_zero_not drop cs inFront
  rw [trimBy, front]
  exact List.rdropWhile_idempotent drop _

/-- A declared default that is no signed hexadecimal number. -/
def PlainDefault (text : Option String) : Prop :=
  ∀ t ∈ text, ∀ digits, afterHexMark? (trim t).toList = some digits → digits.head? ≠ some '+'

theorem splitSign_of_hexMark {raw digits : List Char} (mark : afterHexMark? raw = some digits) :
    splitSign raw = (false, raw) := by
  rw [afterHexMark?.eq_def] at mark
  split at mark
  · rfl
  · rfl
  · cases mark

/-- The digits of a hexadecimal default that denotes a number. -/
theorem isHexDigit_of_denotedInt? {raw digits : List Char} {value : Int}
    (trimmed : trimBy isBlank raw = raw) (mark : afterHexMark? raw = some digits)
    (denoted : denotedInt? raw = some value) (unsigned : digits.head? ≠ some '+') :
    digits ≠ [] ∧ ∀ c ∈ digits, isHexDigit c = true := by
  rw [denotedInt?, splitSign_of_hexMark mark] at denoted
  rcases Option.map_eq_some_iff.1 denoted with ⟨n, read, -⟩
  rw [readNat, String.toList_ofList, trimmed] at read
  simp only [mark] at read
  exact isHexDigit_of_readWord read unsigned

theorem atom_intLiteral {text : Option String} {raw : String} {type : IntType}
    {literal : IntLiteral} (plain : PlainDefault text) (declared : declaredDefault? text = some raw)
    (found : intLiteral? raw.toList type = some literal) : Atom literal.text := by
  rcases Option.filter_eq_some_iff.1 declared with ⟨trimmed, -⟩
  rcases Option.map_eq_some_iff.1 trimmed with ⟨t, given, rfl⟩
  rcases Option.bind_eq_some_iff.1 found with ⟨value, denoted, chosen⟩
  rw [Option.ite_none_right_eq_some] at chosen
  cases mark : afterHexMark? (trim t).toList with
  | none =>
      rw [mark] at chosen
      cases chosen.2
      exact atom_signedDecimal value
  | some digits =>
      rw [mark] at chosen
      cases chosen.2
      -- Only here the condition counts: the digits are written as they were declared.
      have unsigned := plain t given digits mark
      have trimmed : trimBy isBlank (trim t).toList = (trim t).toList := by
        rw [trim, String.toList_ofList, trimBy_trimBy]
      rcases isHexDigit_of_denotedInt? trimmed mark denoted unsigned with ⟨nonempty, digits⟩
      exact atom_hexadecimal nonempty digits

end Numbers

/-! ## Strings -/

section Strings

open Numeral

theorem run_codePointDigit (opened : List Bracket) {value count digit : Nat} (few : count < 6)
    (small : digit < 16) :
    run ⟨.codePoint value count, opened⟩ [digitChar false digit] =
      some ⟨.codePoint (value * 16 + digit) (count + 1), opened⟩ := by
  have values : ∀ d < 16, digitValue? 16 (digitChar false d) = some d := by decide
  have continued : (Mode.codePoint value count).continue? (digitChar false digit) =
      some (.codePoint (value * 16 + digit) (count + 1)) := by
    rw [Mode.continue?, values digit small]
    exact if_neg (Nat.ne_of_lt few)
  rw [run, step_of_continue continued]
  rfl

/-- The digits of a number below a power of sixteen are read as this number. -/
theorem run_codePoint (opened : List Bracket) {k n : Nat} (few : k < 6)
    (small : n < Nat.pow 16 (k + 1)) :
    ∃ count ≤ k + 1, count ≠ 0 ∧
      run ⟨.codePoint 0 0, opened⟩ (digits 16 false n) = some ⟨.codePoint n count, opened⟩ := by
  have one {m : Nat} (small : m < 16) :
      run ⟨.codePoint 0 0, opened⟩ (digits 16 false m) = some ⟨.codePoint m 1, opened⟩ := by
    rw [digits, if_pos (.inl small), run_codePointDigit opened (by decide) small, Nat.zero_mul,
      Nat.zero_add]
  -- Digits come out with the last one at the end, so the induction is on how many there may be.
  induction k generalizing n with
  | zero => exact ⟨1, Nat.le_refl 1, Nat.one_ne_zero, one small⟩
  | succ k ih =>
      by_cases least : n < 16
      · exact ⟨1, Nat.le_add_left 1 _, Nat.one_ne_zero, one least⟩
      · have front : n / 16 < Nat.pow 16 (k + 1) := by
          rw [Nat.div_lt_iff_lt_mul (by decide)]
          exact small
        rcases ih (Nat.lt_of_succ_lt few) front with ⟨count, le, -, read⟩
        refine ⟨count + 1, Nat.succ_le_succ le, Nat.succ_ne_zero count, ?_⟩
        rw [digits, if_neg (by omega), run_append, read, Option.bind_some,
          run_codePointDigit opened (by omega) (Nat.mod_lt n (by decide)), Nat.div_add_mod']

theorem fits_codePointEscape (c : Char) :
    Fits .string .string (String.ofList (Quoted.codePointEscape c)) := by
  intro opened
  refine ⟨.string, .refl, ?_⟩
  -- Every code point has at most the six digits that an escape may have.
  have small : c.toNat < Nat.pow 16 6 := by
    have valid : c.toNat.isValidChar := c.valid
    have bound : Nat.pow 16 6 = 16777216 := rfl
    rw [Nat.isValidChar] at valid
    omega
  rcases run_codePoint opened (k := 5) (by decide) small with ⟨count, -, begun, read⟩
  have front : run ⟨.string, opened⟩ ['\\', 'u', '\x7b'] = some ⟨.codePoint 0 0, opened⟩ := rfl
  have closed : (Mode.codePoint c.toNat count).continue? '\x7d' = some .string := by
    have valid : c.toNat.isValidChar := c.valid
    have noDigit : digitValue? 16 '\x7d' = none := by decide
    rw [Mode.continue?, noDigit]
    exact if_pos ⟨rfl, begun, valid⟩
  rw [String.toList_ofList, Quoted.codePointEscape, List.append_assoc, run_append, front,
    Option.bind_some, run_append, read, Option.bind_some, run, step_of_continue closed]
  rfl

/-- Each character of a text stays inside the string when it is escaped. -/
theorem fits_flatMap {escape : Char → List Char}
    (each : ∀ c, Fits .string .string (String.ofList (escape c))) (cs : List Char) :
    Fits .string .string (String.ofList (cs.flatMap escape)) := by
  induction cs with
  | nil => exact .empty
  | cons c cs ih =>
      rw [List.flatMap_cons, String.ofList_append]
      exact (each c).append ih

theorem fits_plain {c : Char} (plain : c ∉ ['\x22', '\\', '\n', '\r']) :
    Fits .string .string (String.ofList [c]) := by
  intro opened
  refine ⟨.string, .refl, ?_⟩
  have continued : Mode.string.continue? c = some .string := by
    simp only [List.mem_cons, List.not_mem_nil, or_false, not_or] at plain
    have inString : isPlainInString c = true := by
      rw [isPlainInString, bne_iff_ne.2 plain.2.2.1, bne_iff_ne.2 plain.2.2.2]
      rfl
    rw [Mode.continue?, if_neg plain.1, if_neg plain.2.1, if_pos inString]
  rw [String.toList_ofList, run, step_of_continue continued]
  rfl

theorem fits_escapeChar (c : Char) :
    Fits .string .string (String.ofList (Quoted.escapeChar c)) := by
  rw [Quoted.escapeChar]
  split_ifs with null tab carriageReturn lineBreak backslash quote joining visible
  · exact .of_run (by decide)
  · exact .of_run (by decide)
  · exact .of_run (by decide)
  · exact .of_run (by decide)
  · exact .of_run (by decide)
  · exact .of_run (by decide)
  · exact fits_codePointEscape c
  · -- What is not escaped neither ends the string nor breaks its line.
    refine fits_plain ?_
    simp [carriageReturn, lineBreak, backslash, quote]
  · exact fits_codePointEscape c

/-- A quoted text is a string. -/
theorem fits_quote (text : String) : Fits .ground .stringEnd (Quoted.quote text) := by
  have front : Fits .ground .string "\"" := .of_run (by decide)
  have back : Fits .string .stringEnd "\"" := .of_run (by decide)
  rw [Quoted.quote, String.ofList_append, String.ofList_append]
  exact (front.append (fits_flatMap fits_escapeChar text.toList)).append back

theorem fits_asciiEscapeChar (c : Char) :
    Fits .string .string (String.ofList (Quoted.asciiEscapeChar c)) := by
  rw [Quoted.asciiEscapeChar]
  split_ifs with tab carriageReturn lineBreak special printable
  · exact .of_run (by decide)
  · exact .of_run (by decide)
  · exact .of_run (by decide)
  · rcases special with rfl | rfl | rfl
    · exact .of_run (by decide)
    · exact .of_run (by decide)
    · exact .of_run (by decide)
  · rw [not_or, not_or] at special
    refine fits_plain ?_
    simp [carriageReturn, lineBreak, special.1, special.2.1]
  · exact fits_codePointEscape c

theorem fits_asciiEscape (text : String) :
    Fits .string .string (Quoted.asciiEscape text) :=
  fits_flatMap fits_asciiEscapeChar text.toList

end Strings

/-! ## Comments -/

/-- A text on one line. -/
def OneLine (text : String) : Prop :=
  '\n' ∉ text.toList ∧ '\r' ∉ text.toList

instance (text : String) : Decidable (OneLine text) :=
  inferInstanceAs (Decidable ('\n' ∉ text.toList ∧ '\r' ∉ text.toList))

theorem OneLine.fits {text : String} (oneLine : OneLine text) : Fits .comment .comment text := by
  intro opened
  refine ⟨.comment, .refl, run_of_continue opened fun c inside => ?_⟩
  have noBreak : c ≠ '\n' := by
    rintro rfl
    exact oneLine.1 inside
  have noReturn : c ≠ '\r' := by
    rintro rfl
    exact oneLine.2 inside
  rw [Mode.continue?, if_neg noBreak, if_neg noReturn]

/-- The words of a text stand on one line. -/
theorem fits_oneLine (text : String) : Fits .comment .comment (oneLine text) := by
  have space : Fits .comment .comment " " := .of_run (by decide)
  -- Line breaks are blanks, and between the blanks there are none.
  refine .intercalate_map (fun run between => ?_) space .refl
  have noBlank := mem_of_mem_runsBetween between
  refine OneLine.fits ⟨?_, ?_⟩
  · intro inside
    rw [String.toList_ofList] at inside
    exact absurd (noBlank _ inside) (by decide)
  · intro inside
    rw [String.toList_ofList] at inside
    exact absurd (noBlank _ inside) (by decide)

theorem IsWord.oneLine {text : String} (word : IsWord text) : OneLine text := by
  constructor
  · intro inside
    exact absurd (word.parts _ inside) (by decide)
  · intro inside
    exact absurd (word.parts _ inside) (by decide)

end Lexical
end ClusterCodec

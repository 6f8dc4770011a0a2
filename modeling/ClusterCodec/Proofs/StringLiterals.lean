import ClusterCodec.Proofs.DeclaredIntegers

/-!
# StringLiterals — quoted texts and what they stand for

Texts of a document are written into generated code as string literals.  A literal must neither end
early nor lose a character, whatever the text is.

- `escapedText?`, `stringValue?`, `literalValue?`: escapes undone, up to the closing quote.
- `afterString?_of_stringValue?`: the tokenizer ends a string where its text ends.
- `OneLineInside`: the inside of a literal, without line breaks and bare quotes.
- `Quoted.Writes`, `writes_escapeChar`: each character is written as itself or as an escape for it.
- `Quoted.StandsFor`, `standsFor_quote`: a quoted text is one token on one line and stands for the text.
-/

namespace ClusterCodec

open Text

namespace Lexical

/-! ## What a string literal stands for -/

/-- The text that an escape stands for and what follows it, from behind the backslash. At the end of a
line it stands for nothing, and the next line is joined to this one. -/
def escapedText? : List Char → Option (List Char × List Char)
  | '\n' :: cs => (afterContinuation? cs).map ([], ·)
  | '\r' :: '\n' :: cs => (afterContinuation? cs).map ([], ·)
  | 'n' :: cs => some (['\n'], cs)
  | 'r' :: cs => some (['\r'], cs)
  | 't' :: cs => some (['\t'], cs)
  | '0' :: cs => some (['\x00'], cs)
  | '\\' :: cs => some (['\\'], cs)
  | '\x27' :: cs => some (['\x27'], cs)
  | '\x22' :: cs => some (['\x22'], cs)
  | 'x' :: first :: second :: cs =>
    match Numeral.digitValue? 16 first, Numeral.digitValue? 16 second with
    | some high, some low => if high < 8 then some ([Char.ofNat (high * 16 + low)], cs) else none
    | _, _ => none
  | 'u' :: cs => (codePoint? cs).map fun (value, rest) => ([Char.ofNat value], rest)
  | _ => none

/-- The escape is one for the tokenizer too. -/
theorem afterStringEscape?_of_escapedText? {cs part rest : List Char}
    (escape : escapedText? cs = some (part, rest)) : afterStringEscape? .text cs = some rest := by
  unfold escapedText? at escape
  split at escape
  -- A continued line, two hexadecimal digits and a code point; every other escape is one character.
  case h_1 | h_2 =>
    obtain ⟨after, joined, same⟩ := Option.map_eq_some_iff.1 escape
    cases same
    exact joined
  case h_10 first second cs =>
    split at escape
    · next high low isHigh isLow =>
        obtain ⟨small, same⟩ := Option.ite_none_right_eq_some.1 escape
        cases same
        simp [afterStringEscape?, afterEscape?, LiteralKind.admitsPair, isHigh, isLow, small]
    · cases escape
  case h_11 cs =>
    obtain ⟨⟨value, after⟩, read, same⟩ := Option.map_eq_some_iff.1 escape
    cases same
    simp [afterStringEscape?, afterEscape?, read]
  case h_12 => cases escape
  all_goals
    cases escape
    rfl

theorem escapedText?_shorter {cs part rest : List Char}
    (escape : escapedText? cs = some (part, rest)) : rest.length < cs.length :=
  afterStringEscape?_consumes .text (afterStringEscape?_of_escapedText? escape)

/-- Some text in front of a text that was read. -/
def withFront (front : List Char) (read : List Char × List Char) : List Char × List Char :=
  (front ++ read.1, read.2)

/-- The text of a string and what follows it, from behind the opening quote. A carriage return may
stand before a line feed only, and the two are a line feed. -/
def stringValue? (cs : List Char) : Option (List Char × List Char) :=
  match cs with
  | [] => none
  | '\x22' :: rest => some ([], rest)
  | '\r' :: '\n' :: rest => (stringValue? rest).map (withFront ['\n'])
  | '\r' :: _ => none
  | '\\' :: rest =>
    match _escape : escapedText? rest with
    | some (part, after) => (stringValue? after).map (withFront part)
    | none => none
  | c :: rest => (stringValue? rest).map (withFront [c])
termination_by cs.length
decreasing_by
  · simp only [List.length_cons]; omega
  · exact Nat.lt_succ_of_lt (escapedText?_shorter _escape)
  · exact Nat.lt_succ_self _

/-- The text of a string literal and what follows the literal. -/
def literalValue? : List Char → Option (List Char × List Char)
  | '\x22' :: cs => stringValue? cs
  | _ => none

theorem afterString?_lineBreak (cs : List Char) :
    afterString? .text ('\r' :: '\n' :: cs) = afterString? .text cs := by
  rw [afterString?.eq_def]
  rfl

theorem exists_of_map_withFront {front text rest : List Char}
    {read : Option (List Char × List Char)} (found : read.map (withFront front) = some (text, rest)) :
    ∃ back, read = some (back, rest) ∧ text = front ++ back := by
  obtain ⟨⟨back, behind⟩, some, same⟩ := Option.map_eq_some_iff.1 found
  cases same
  exact ⟨back, some, rfl⟩

/-- The tokenizer, which does not undo escapes, ends a string where its text ends. -/
theorem afterString?_of_stringValue? {cs text rest : List Char}
    (read : stringValue? cs = some (text, rest)) : afterString? .text cs = some (afterSuffix rest) := by
  -- Both readers take the same steps. Only behind the closing quote the tokenizer reads on.
  fun_induction stringValue? cs generalizing text with
  | case1 =>
      cases read
  | case2 rest =>
      cases read
      exact afterString?_end
  | case3 cs ih =>
      obtain ⟨back, found, -⟩ := exists_of_map_withFront read
      rw [afterString?_lineBreak]
      exact ih found
  | case4 =>
      cases read
  | case5 cs part after escape ih =>
      obtain ⟨back, found, -⟩ := exists_of_map_withFront read
      rw [afterString?_escape (afterStringEscape?_of_escapedText? escape)]
      exact ih found
  | case6 =>
      cases read
  | case7 c cs noQuote noLineBreak noReturn noEscape ih =>
      obtain ⟨back, found, -⟩ := exists_of_map_withFront read
      have plain : c ∉ ['\x22', '\r', '\\'] := by
        simp only [List.mem_cons, List.not_mem_nil, or_false, not_or]
        exact ⟨noQuote, noReturn, noEscape⟩
      rw [afterString?_plain plain]
      exact ih found

/-! ### One character at a time -/

section Equations

variable {c : Char} {cs part rest : List Char}

theorem stringValue?_end : stringValue? ('\x22' :: cs) = some ([], cs) := by
  rw [stringValue?.eq_def]
  rfl

theorem stringValue?_plain (plain : c ∉ ['\x22', '\\', '\r']) :
    stringValue? (c :: cs) = (stringValue? cs).map (withFront [c]) := by
  simp only [List.mem_cons, List.not_mem_nil, or_false, not_or] at plain
  obtain ⟨noQuote, noEscape, noReturn⟩ := plain
  rw [stringValue?.eq_def]
  split
  · next none => cases none
  · next same => exact absurd (List.cons.inj same).1 noQuote
  · next same => exact absurd (List.cons.inj same).1 noReturn
  · next same => exact absurd (List.cons.inj same).1 noReturn
  · next same => exact absurd (List.cons.inj same).1 noEscape
  · next same =>
      cases same
      rfl

theorem stringValue?_escape (escape : escapedText? cs = some (part, rest)) :
    stringValue? ('\\' :: cs) = (stringValue? rest).map (withFront part) := by
  rw [stringValue?.eq_def]
  split
  · next none => cases none
  · next same => cases same
  · next same => cases same
  · next same => cases same
  · next same =>
      cases same
      split
      · next found =>
          rw [escape] at found
          cases found
          rfl
      · next none =>
          rw [escape] at none
          cases none
  · next noEscape same => exact absurd (List.cons.inj same).1.symm noEscape

end Equations

/-! ## Code points -/

theorem readCodePoint_digits {ds : List Char}
    (digits : ∀ c ∈ ds, (Numeral.digitValue? 16 c).isSome = true) {value count : Nat}
    (few : count + ds.length ≤ 6) (rest : List Char) :
    readCodePoint value count (ds ++ rest) =
      readCodePoint (Numeral.valueFrom 16 value ds) (count + ds.length) rest := by
  induction ds generalizing value count with
  | nil => rfl
  | cons c ds ih =>
      obtain ⟨digit, found⟩ := Option.isSome_iff_exists.1 (digits c (.head _))
      simp only [List.length_cons] at few
      have later : ∀ d ∈ ds, (Numeral.digitValue? 16 d).isSome = true := fun d written =>
        digits d (.tail _ written)
      have more := @ih later (value * 16 + digit) (count + 1) (by omega)
      have room : count ≠ 6 := by omega
      have length : count + (ds.length + 1) = count + 1 + ds.length := by omega
      rw [List.cons_append, readCodePoint, found]
      simpa [room, length, Numeral.valueFrom, found] using more

theorem length_digits_le {k n : Nat} (small : n < 16 ^ (k + 1)) :
    (Numeral.digits 16 false n).length ≤ k + 1 := by
  induction k generalizing n with
  | zero =>
      rw [Numeral.digits, if_pos (.inl (by simpa using small))]
      exact Nat.le_refl 1
  | succ k ih =>
      rw [Numeral.digits]
      split
      · simp
      · have front : n / 16 < 16 ^ (k + 1) := by
          rw [Nat.div_lt_iff_lt_mul (by decide)]
          exact small
        simpa using ih front

/-- The number of a character in braces is read as this number. -/
theorem codePoint?_digits (c : Char) (rest : List Char) :
    codePoint? ('\x7b' :: (Numeral.digits 16 false c.toNat ++ '\x7d' :: rest)) =
      some (c.toNat, rest) := by
  have valid : c.toNat.isValidChar := c.valid
  have written : Numeral.IsDigits 16 (Numeral.digits 16 false c.toNat) :=
    Numeral.isDigits_digits (by decide) (by decide) false c.toNat
  obtain ⟨nonempty, digits⟩ := written
  have few : (Numeral.digits 16 false c.toNat).length ≤ 6 := by
    have bound : (16 : Nat) ^ 6 = 16777216 := rfl
    -- The last code point, 10FFFF, has six digits.
    refine length_digits_le (k := 5) ?_
    rw [Nat.isValidChar] at valid
    omega
  have value : Numeral.valueFrom 16 0 (Numeral.digits 16 false c.toNat) = c.toNat :=
    Numeral.valueOf_digits (by decide) (by decide) false c.toNat
  have begun : (Numeral.digits 16 false c.toNat).length ≠ 0 := by
    simpa using nonempty
  have noDigit : Numeral.digitValue? 16 '\x7d' = none := by
    decide
  rw [codePoint?, readCodePoint_digits digits (by omega), value, Nat.zero_add, readCodePoint, noDigit]
  simp [begun, valid]

/-! ## The inside of a literal -/

/-- The characters that end a line somewhere. -/
def lineBreaks : List Char :=
  ['\n', '\r', '\x0b', '\x0c', '\u0085', '\u2028', '\u2029']

/-- The character stands for itself in a string, which it neither ends nor breaks. -/
def Plain (c : Char) : Prop :=
  c ∉ '\x22' :: '\\' :: lineBreaks

instance (c : Char) : Decidable (Plain c) :=
  inferInstanceAs (Decidable (_ ∉ _))

/-- The inside of a literal on one line: a quote stands only behind a backslash that takes it. -/
inductive OneLineInside : List Char → Prop where
  | nil : OneLineInside []
  | plain {c : Char} {cs : List Char} : Plain c → OneLineInside cs → OneLineInside (c :: cs)
  | escape {c : Char} {cs : List Char} :
      c ∉ lineBreaks → OneLineInside cs → OneLineInside ('\\' :: c :: cs)

/-- No line is ended inside. -/
theorem OneLineInside.notMem {cs : List Char} {c : Char} (inside : OneLineInside cs)
    (listed : c ∈ lineBreaks) : c ∉ cs := by
  induction inside with
  | nil => exact List.not_mem_nil
  | plain plain _ ih =>
      intro mem
      rcases List.mem_cons.1 mem with rfl | mem
      · exact plain (List.mem_cons_of_mem _ (List.mem_cons_of_mem _ listed))
      · exact ih mem
  | escape unbroken _ ih =>
      intro mem
      rcases List.mem_cons.1 mem with rfl | mem
      · revert listed
        decide
      · rcases List.mem_cons.1 mem with rfl | mem
        · exact unbroken listed
        · exact ih mem

theorem OneLineInside.append_plain {front back : List Char} (plain : ∀ c ∈ front, Plain c)
    (inside : OneLineInside back) : OneLineInside (front ++ back) := by
  induction front with
  | nil => exact inside
  | cons c front ih =>
      have rest := ih fun d later => plain d (.tail _ later)
      exact .plain (plain c (.head _)) rest

end Lexical

namespace Text
namespace Quoted

open Lexical

/-! ## Quoted texts -/

/-- How one character is written in a literal: as itself, or as an escape that stands for it. -/
inductive Writes (c : Char) : List Char → Prop where
  | itself : Plain c → Writes c [c]
  | escape {first : Char} {others : List Char} : first ∉ lineBreaks → (∀ d ∈ others, Plain d) →
      (∀ rest, escapedText? (first :: others ++ rest) = some ([c], rest)) →
        Writes c ('\\' :: first :: others)

theorem writes_codePointEscape (c : Char) : Writes c (codePointEscape c) := by
  have plain : ∀ d < 16, Plain (Numeral.digitChar false d) := by decide
  have text : codePointEscape c =
      '\\' :: 'u' :: ('\x7b' :: (Numeral.digits 16 false c.toNat ++ ['\x7d'])) := by
    simp [codePointEscape]
  rw [text]
  refine .escape (by decide) ?_ ?_
  · intro d written
    simp only [List.mem_cons, List.mem_append, List.not_mem_nil, or_false] at written
    rcases written with rfl | digit | rfl
    · decide
    · obtain ⟨value, small, rfl⟩ := Numeral.mem_digits (by decide) digit
      exact plain value small
    · decide
  · intro rest
    have read := codePoint?_digits c rest
    simp [escapedText?, read]

/-- An escape of one character. -/
theorem writes_short {c first : Char} (unbroken : first ∉ lineBreaks)
    (escaped : ∀ rest, escapedText? (first :: rest) = some ([c], rest)) :
    Writes c ['\\', first] :=
  .escape unbroken (by simp) escaped

theorem plain_of_isVisible {c : Char} (noEscape : c ≠ '\\') (noQuote : c ≠ '\x22')
    (visible : Visible.isVisible c = true) : Plain c := by
  have hidden : ∀ d ∈ lineBreaks, Visible.isVisible d = false := by
    decide +kernel
  intro listed
  rcases List.mem_cons.1 listed with rfl | listed
  · exact noQuote rfl
  · rcases List.mem_cons.1 listed with rfl | listed
    · exact noEscape rfl
    · rw [hidden c listed] at visible
      cases visible

theorem writes_escapeChar (c : Char) : Writes c (escapeChar c) := by
  -- Six characters have an escape of their own; of the others, those that are not seen are numbers.
  by_cases short : c ∈ ['\x00', '\t', '\r', '\n', '\\', '\x22']
  · simp only [List.mem_cons, List.not_mem_nil, or_false] at short
    rcases short with rfl | rfl | rfl | rfl | rfl | rfl
    all_goals exact writes_short (by decide) fun _ => rfl
  · simp only [List.mem_cons, List.not_mem_nil, or_false, not_or] at short
    obtain ⟨noNull, noTab, noReturn, noBreak, noEscape, noQuote⟩ := short
    simp only [escapeChar, noNull, noTab, noReturn, noBreak, noEscape, noQuote, if_false]
    split
    · exact writes_codePointEscape c
    · split
      · next visible => exact .itself (plain_of_isVisible noEscape noQuote visible)
      · exact writes_codePointEscape c

theorem Writes.stringValue?_append {c : Char} {piece : List Char} (writes : Writes c piece)
    (rest : List Char) :
    stringValue? (piece ++ rest) = (stringValue? rest).map (withFront [c]) := by
  cases writes with
  | itself plain =>
      apply stringValue?_plain
      intro listed
      have all : ∀ d ∈ ['\x22', '\\', '\r'], ¬ Plain d := by decide
      exact all c listed plain
  | escape _ _ escaped =>
      exact stringValue?_escape (escaped rest)

theorem Writes.oneLineInside_append {c : Char} {piece rest : List Char} (writes : Writes c piece)
    (inside : OneLineInside rest) : OneLineInside (piece ++ rest) := by
  cases writes with
  | itself plain => exact .plain plain inside
  | escape unbroken plain _ => exact .escape unbroken (inside.append_plain plain)

/-- The escapes are undone one by one up to the closing quote. -/
theorem stringValue?_flatMap (text rest : List Char) :
    stringValue? (text.flatMap escapeChar ++ '\x22' :: rest) = some (text, rest) := by
  induction text with
  | nil => exact stringValue?_end
  | cons c text ih =>
      rw [List.flatMap_cons, List.append_assoc, (writes_escapeChar c).stringValue?_append, ih]
      rfl

theorem oneLineInside_flatMap (text : List Char) : OneLineInside (text.flatMap escapeChar) := by
  induction text with
  | nil => exact .nil
  | cons c text ih => exact (writes_escapeChar c).oneLineInside_append ih

/-! ## A literal in its place -/

/-- The literal stands for the text: it is on one line, reading it gives the text and what is behind
the literal, and there it ends as a token, unless the text behind makes a suffix of it. -/
structure StandsFor (literal text : String) : Prop where
  oneLine : ∃ inside, literal.toList = '\x22' :: (inside ++ ['\x22']) ∧ OneLineInside inside
  value : ∀ rest, literalValue? (literal.toList ++ rest) = some (text.toList, rest)
  token : ∀ rest, afterSuffix rest = rest →
    skipTrivia (literal.toList ++ rest) = literal.toList ++ rest ∧
      afterTextLiteral? (literal.toList ++ rest) = some rest ∧
      step? (literal.toList ++ rest) = some (.token, rest)

theorem toList_quote (text : String) :
    (quote text).toList = '\x22' :: (text.toList.flatMap escapeChar ++ ['\x22']) := by
  simp [quote]

theorem toList_quote_append (text : String) (rest : List Char) :
    (quote text).toList ++ rest = '\x22' :: (text.toList.flatMap escapeChar ++ '\x22' :: rest) := by
  simp [toList_quote]

/-- A string is a token from its opening quote on. -/
theorem step?_of_string {cs rest : List Char} (string : afterString? .text cs = some rest) :
    step? ('\x22' :: cs) = some (.token, rest) := by
  have starts : StartsToken '\x22' := startsToken_of_mem (by decide)
  have token : afterToken? ('\x22' :: cs) = some rest := by
    simp [afterToken?, afterTextLiteral?, string]
  have noBracket : Bracket.opening? '\x22' = none ∧ Bracket.closing? '\x22' = none := ⟨rfl, rfl⟩
  simp [step?, starts.afterDoc?, noBracket.1, noBracket.2, token]

theorem standsFor_quote (text : String) : StandsFor (quote text) text where
  oneLine := ⟨_, toList_quote text, oneLineInside_flatMap text.toList⟩
  value := by
    intro rest
    rw [toList_quote_append]
    exact stringValue?_flatMap text.toList rest
  token := by
    intro rest noSuffix
    have string : afterString? .text (text.toList.flatMap escapeChar ++ '\x22' :: rest) =
        some rest := by
      have ends := afterString?_of_stringValue? (stringValue?_flatMap text.toList rest)
      rwa [noSuffix] at ends
    have starts : StartsToken '\x22' := startsToken_of_mem (by decide)
    rw [toList_quote_append]
    exact ⟨skipTrivia_of_none starts.afterTrivium?, string, step?_of_string string⟩

theorem StandsFor.break_notMem {literal text : String} (stands : StandsFor literal text) :
    '\n' ∉ literal.toList := by
  obtain ⟨inside, whole, oneLine⟩ := stands.oneLine
  have unbroken : '\n' ∉ inside := oneLine.notMem (by decide)
  rw [whole]
  simpa using unbroken

end Quoted
end Text
end ClusterCodec

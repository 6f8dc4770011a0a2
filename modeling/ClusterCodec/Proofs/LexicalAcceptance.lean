import ClusterCodec.Proofs.TokenRules
import Mathlib.Tactic.SplitIfs

/-!
# LexicalAcceptance — what is read to its end falls into tokens

- `Reads`: the rest of a text is read to its end, where nothing is open.
- `Reads.word`, `Reads.digits`, `Reads.string`, `Reads.comment`: where the token ends that the text
  is in, and that the text behind it is read too.
- `tokenizesFrom_of_reads`: what is read to its end falls into tokens.
-/

namespace ClusterCodec
namespace Lexical

open Text LexState

variable {opened : List Bracket} {c : Char} {cs : List Char}

/-- The whole text was read, and all brackets are closed. -/
def Reads (mode : Mode) (opened : List Bracket) (cs : List Char) : Prop :=
  run ⟨mode, opened⟩ cs = some ⟨.ground, []⟩

theorem Reads.nil {mode : Mode} (reads : Reads mode opened []) : mode = .ground ∧ opened = [] := by
  cases reads
  exact ⟨rfl, rfl⟩

/-- Either the first character continues the token, or it stands between tokens. -/
theorem Reads.cons {mode : Mode} (reads : Reads mode opened (c :: cs)) :
    (∃ next, mode.continue? c = some next ∧ Reads next opened cs) ∨
      mode.continue? c = none ∧ mode.mayEndBefore c = true ∧ Reads .ground opened (c :: cs) := by
  rcases Option.bind_eq_some_iff.1 reads with ⟨next, first, rest⟩
  rcases continues_or_ends first with ⟨mode, continued, rfl⟩ | ⟨stops, ends, begun⟩
  · exact .inl ⟨mode, continued, rest⟩
  · refine .inr ⟨stops, ends, ?_⟩
    have ground : step ⟨.ground, opened⟩ c = some next := begun
    rw [Reads, run, ground]
    exact rest

/-! ## Words and numbers -/

/-- A token of one kind of characters ends where another character stands. -/
theorem Reads.dropWhile {mode : Mode} {part : Char → Bool} {behind : List Char}
    (continues : ∀ c, mode.continue? c = if part c then some mode else none)
    (ends : ∀ c, mode.mayEndBefore c = true → c ∈ behind) (inside : mode ≠ .ground)
    (reads : Reads mode opened cs) :
    StartsIn behind (cs.dropWhile part) ∧ Reads .ground opened (cs.dropWhile part) := by
  induction cs with
  | nil => exact absurd reads.nil.1 inside
  | cons c cs ih =>
      rcases reads.cons with ⟨next, continued, rest⟩ | ⟨stops, last, rest⟩
      · rw [continues, Option.ite_none_right_eq_some] at continued
        rcases continued with ⟨isPart, same⟩
        cases same
        rw [List.dropWhile_cons_of_pos isPart]
        exact ih rest
      · rw [continues] at stops
        have noPart : ¬ part c = true := by
          intro isPart
          rw [if_pos isPart] at stops
          cases stops
        rw [List.dropWhile_cons_of_neg noPart]
        exact ⟨⟨c, cs, rfl, ends c last⟩, rest⟩

theorem Reads.word (reads : Reads .word opened cs) :
    StartsIn separatorsOrPoint (cs.dropWhile isWordPart) ∧
      Reads .ground opened (cs.dropWhile isWordPart) :=
  reads.dropWhile (fun _ => rfl) (fun _ => of_decide_eq_true) (by decide)

theorem Reads.digits (reads : Reads .digits opened cs) :
    StartsIn separators (cs.dropWhile Char.isDigit) ∧
      Reads .ground opened (cs.dropWhile Char.isDigit) :=
  reads.dropWhile (fun _ => rfl) (fun _ => of_decide_eq_true) (by decide)

theorem Reads.hexDigits (reads : Reads .hexDigits opened cs) :
    StartsIn separators (cs.dropWhile isHexDigit) ∧
      Reads .ground opened (cs.dropWhile isHexDigit) :=
  reads.dropWhile (fun _ => rfl) (fun _ => of_decide_eq_true) (by decide)

/-! ## Strings -/

theorem afterString?_end : afterString? .text ('\x22' :: cs) = some (afterSuffix cs) := by
  rw [afterString?.eq_def]
  rfl

theorem afterString?_plain (plain : c ∉ ['\x22', '\r', '\\']) :
    afterString? .text (c :: cs) = afterString? .text cs := by
  rw [afterString?]
  · rfl
  -- The earlier equations are for the characters that are excluded.
  all_goals
    intros
    subst c
    exact absurd plain (by decide)

theorem afterString?_escape {rest : List Char} (escape : afterStringEscape? .text cs = some rest) :
    afterString? .text ('\\' :: cs) = afterString? .text rest := by
  rw [afterString?.eq_def]
  split
  · next none => cases none
  · next same => exact absurd (List.cons.inj same).1 (by decide)
  · next same => exact absurd (List.cons.inj same).1 (by decide)
  · next same => exact absurd (List.cons.inj same).1 (by decide)
  · next same =>
      rw [← (List.cons.inj same).2]
      split
      · next found =>
          rw [escape] at found
          cases found
          rfl
      · next none =>
          rw [escape] at none
          cases none
  · next noEscape same => exact (noEscape (List.cons.inj same).1.symm).elim

/-- The braces of a code point are closed, and the string goes on. -/
theorem Reads.codePoint {value count : Nat} (reads : Reads (.codePoint value count) opened cs) :
    ∃ result rest, readCodePoint value count cs = some (result, rest) ∧
      Reads .string opened rest := by
  induction cs generalizing value count with
  | nil => cases reads.nil.1
  | cons c cs ih =>
      rcases reads.cons with ⟨next, continued, rest⟩ | ⟨-, ends, -⟩
      · rw [Mode.continue?] at continued
        rw [readCodePoint]
        -- What comes is a digit, which the number takes up, or the brace that closes.
        cases digit : Numeral.digitValue? 16 c with
        | some digit =>
            simp only [digit, Option.ite_none_left_eq_some, Option.some.injEq] at continued ⊢
            rcases continued with ⟨few, rfl⟩
            rcases ih rest with ⟨result, rest, read, string⟩
            exact ⟨result, rest, ⟨few, read⟩, string⟩
        | none =>
            simp only [digit, Option.ite_none_right_eq_some, Option.some.injEq] at continued
            rcases continued with ⟨⟨rfl, begun, valid⟩, rfl⟩
            refine ⟨value, cs, ?_, rest⟩
            simp [begun, valid]
      · cases ends

theorem afterStringEscape?_short (short : c ∈ shortEscapes) :
    afterStringEscape? .text (c :: cs) = some cs := by
  simp only [shortEscapes, List.mem_cons, List.not_mem_nil, or_false] at short
  rcases short with rfl | rfl | rfl | rfl | rfl | rfl | rfl <;> rfl

theorem afterStringEscape?_codePoint {result : Nat} {rest : List Char}
    (read : readCodePoint 0 0 cs = some (result, rest)) :
    afterStringEscape? .text ('u' :: '\x7b' :: cs) = some rest := by
  have escape : afterStringEscape? .text ('u' :: '\x7b' :: cs) = (readCodePoint 0 0 cs).bind
      fun found =>
        if LiteralKind.text = .nullTerminated ∧ found.1 = 0 then none else some found.2 :=
    rfl
  rw [escape, read, Option.bind_some]
  exact if_neg (by simp)

/-- An escape ends where the string goes on. -/
theorem Reads.escape (reads : Reads .escape opened cs) :
    ∃ rest, afterStringEscape? .text cs = some rest ∧ Reads .string opened rest := by
  cases cs with
  | nil => cases reads.nil.1
  | cons c cs =>
      rcases reads.cons with ⟨next, continued, rest⟩ | ⟨-, ends, -⟩
      · rw [Mode.continue?] at continued
        split at continued
        · next short =>
            cases continued
            exact ⟨cs, afterStringEscape?_short short, rest⟩
        · -- The escapes that are not short name a code point in braces.
          rcases Option.ite_none_right_eq_some.1 continued with ⟨rfl, same⟩
          cases same
          cases cs with
          | nil => cases rest.nil.1
          | cons d cs =>
              rcases rest.cons with ⟨next, continued, rest⟩ | ⟨-, ends, -⟩
              · rcases Option.ite_none_right_eq_some.1 continued with ⟨rfl, same⟩
                cases same
                rcases rest.codePoint with ⟨result, rest, read, string⟩
                exact ⟨rest, afterStringEscape?_codePoint read, string⟩
              · cases ends
      · cases ends

/-- Nothing but a separator follows a string, so it has no suffix. -/
theorem Reads.stringEnd (reads : Reads .stringEnd opened cs) :
    afterSuffix cs = cs ∧ Reads .ground opened cs := by
  cases cs with
  | nil => cases reads.nil.1
  | cons c cs =>
      rcases reads.cons with ⟨next, continued, rest⟩ | ⟨-, ends, rest⟩
      · cases continued
      · have noStart := (not_continuesWord (of_decide_eq_true ends)).2
        refine ⟨?_, rest⟩
        rw [afterSuffix, afterWord?, noStart]
        rfl

/-- A string ends where something follows it. -/
theorem Reads.string (reads : Reads .string opened cs) :
    ∃ rest, afterString? .text cs = some rest ∧ Reads .ground opened rest := by
  -- An escape takes several characters at once, so the induction is on the length.
  induction shorter : cs.length using Nat.strongRecOn generalizing cs with
  | ind n ih =>
      cases cs with
      | nil => cases reads.nil.1
      | cons c cs =>
          rcases reads.cons with ⟨next, continued, rest⟩ | ⟨-, ends, -⟩
          · rw [Mode.continue?] at continued
            split at continued
            · next isEnd =>
                cases continued
                rw [isEnd, afterString?_end]
                rcases rest.stringEnd with ⟨noSuffix, ground⟩
                exact ⟨cs, congrArg some noSuffix, ground⟩
            · next noEnd =>
                split at continued
                · next isEscape =>
                    cases continued
                    rcases rest.escape with ⟨rest, escape, string⟩
                    have less : rest.length < n := by
                      have := afterStringEscape?_consumes .text escape
                      rw [← shorter, List.length_cons]
                      omega
                    rcases ih _ less string rfl with ⟨final, read, ground⟩
                    rw [isEscape, afterString?_escape escape]
                    exact ⟨final, read, ground⟩
                · next noEscape =>
                    rcases Option.ite_none_right_eq_some.1 continued with ⟨plain, same⟩
                    cases same
                    have other : c ∉ ['\x22', '\r', '\\'] := by
                      rw [isPlainInString, Bool.and_eq_true, bne_iff_ne, bne_iff_ne] at plain
                      simp only [List.mem_cons, List.not_mem_nil, or_false, not_or]
                      exact ⟨noEnd, plain.2, noEscape⟩
                    have less : cs.length < n := by
                      rw [← shorter, List.length_cons]
                      omega
                    rcases ih _ less rest rfl with ⟨final, read, ground⟩
                    rw [afterString?_plain other]
                    exact ⟨final, read, ground⟩
          · cases ends

/-! ## Comments -/

theorem Reads.space (reads : Reads .ground opened cs) : Reads .ground opened ('\n' :: cs) :=
  reads

/-- A comment ends with its line. -/
theorem Reads.comment (reads : Reads .comment opened cs) :
    '\r' ∉ cs.takeWhile (· != '\n') ∧ Reads .ground opened (afterLine cs) := by
  induction cs with
  | nil => cases reads.nil.1
  | cons c cs ih =>
      rcases reads.cons with ⟨next, continued, rest⟩ | ⟨-, ends, -⟩
      · rw [Mode.continue?] at continued
        split at continued
        · next isBreak =>
            cases continued
            subst isBreak
            exact ⟨List.not_mem_nil, rest.space⟩
        · next noBreak =>
            rcases Option.ite_none_left_eq_some.1 continued with ⟨noReturn, same⟩
            cases same
            rcases ih rest with ⟨absent, ground⟩
            have inLine : (c != '\n') = true := bne_iff_ne.2 noBreak
            have front : (c :: cs).takeWhile (· != '\n') = c :: cs.takeWhile (· != '\n') :=
              List.takeWhile_cons_of_pos inLine
            have back : afterLine (c :: cs) = afterLine cs := List.dropWhile_cons_of_pos inLine
            rw [front, back]
            refine ⟨fun inside => ?_, ground⟩
            rcases List.mem_cons.1 inside with same | inside
            · exact noReturn same.symm
            · exact absent inside
      · cases ends

/-! ## The whole text -/

theorem startsToken_of_isWordPart (part : isWordPart c = true) : StartsToken c := by
  have range := toNat_of_isWordPart part
  constructor
  · rw [isGap, isBlank]
    simp
    omega
  · rintro rfl
    cases part

theorem startsToken_of_mem (other : c ∈ ['\x22', '\x27'] ++ marks ++ "()[]\x7b\x7d".toList) :
    StartsToken c := by
  have all : ∀ d ∈ ['\x22', '\x27'] ++ marks ++ "()[]\x7b\x7d".toList,
      isGap d = false ∧ d ≠ '/' := by decide
  exact ⟨(all c other).1, (all c other).2⟩

theorem noBracket_of_isWordPart (part : isWordPart c = true) :
    Bracket.opening? c = none ∧ Bracket.closing? c = none := by
  have other {d : Char} (noPart : isWordPart d = false) : c ≠ d := by
    rintro rfl
    rw [noPart] at part
    cases part
  rw [Bracket.opening?, Bracket.closing?, if_neg (other rfl), if_neg (other rfl),
    if_neg (other rfl), if_neg (other rfl), if_neg (other rfl), if_neg (other rfl)]
  exact ⟨rfl, rfl⟩

/-- What a text that is read to its end begins with. -/
theorem Reads.begun (reads : Reads .ground opened (c :: cs)) :
    (∃ b, Bracket.opening? c = some b ∧ Reads .ground (b :: opened) cs) ∨
      (∃ b after, Bracket.opening? c = none ∧ Bracket.closing? c = some b ∧
        afterStep? opened (.closing b) = some after ∧ Reads .ground after cs) ∨
      ∃ mode, (Bracket.opening? c = none ∧ Bracket.closing? c = none) ∧ Mode.start? c = some mode ∧
        Reads mode opened cs := by
  rcases Option.bind_eq_some_iff.1 reads with ⟨next, first, rest⟩
  have begun : start opened c = some next := first
  rw [start] at begun
  cases opening : Bracket.opening? c with
  | some b =>
      rw [opening] at begun
      cases begun
      exact .inl ⟨b, rfl, rest⟩
  | none =>
      cases closing : Bracket.closing? c with
      | some b =>
          rw [opening, closing] at begun
          rcases Option.map_eq_some_iff.1 begun with ⟨after, closes, rfl⟩
          exact .inr (.inl ⟨b, after, rfl, rfl, closes, rest⟩)
      | none =>
          rw [opening, closing] at begun
          rcases Option.map_eq_some_iff.1 begun with ⟨mode, started, rfl⟩
          exact .inr (.inr ⟨mode, ⟨rfl, rfl⟩, started, rest⟩)

theorem start?_of_isWordStart (start : isWordStart c = true) : Mode.start? c = some .word := by
  have all : ∀ d ∈ ' ' :: '\n' :: marks, isWordStart d = false := by decide
  have other : ¬ (c = ' ' ∨ c = '\n' ∨ c ∈ marks) := by
    intro inside
    have listed : c ∈ ' ' :: '\n' :: marks := by simpa using inside
    rw [all c listed] at start
    cases start
  rw [Mode.start?, if_neg other, if_pos start]

theorem step_of_isWordPart (part : isWordPart c = true) :
    step ⟨.ground, opened⟩ c = (Mode.start? c).map (⟨·, opened⟩) := by
  have noBracket := noBracket_of_isWordPart part
  rw [step_of_end rfl rfl, LexState.start, noBracket.1, noBracket.2]

/-- A word may begin between tokens. -/
theorem step_of_isWordStart (start : isWordStart c = true) :
    step ⟨.ground, opened⟩ c = some ⟨.word, opened⟩ := by
  rw [step_of_isWordPart (isWordPart_of_isWordStart start), start?_of_isWordStart start]
  rfl

theorem Reads.of_word (start : isWordStart c = true) (reads : Reads .word opened cs) :
    Reads .ground opened (c :: cs) := by
  rw [Reads, run, step_of_isWordStart start]
  exact reads

/-- The number zero, a decimal number or a hexadecimal one. -/
theorem Reads.zero (reads : Reads .zero opened cs) :
    ∃ rest, afterToken? ('0' :: cs) = some rest ∧ Reads .ground opened rest := by
  cases cs with
  | nil => cases reads.nil.1
  | cons c cs =>
      rcases reads.cons with ⟨next, continued, rest⟩ | ⟨stops, ends, rest⟩
      · rw [Mode.continue?] at continued
        split at continued
        · next isMark =>
            cases continued
            subst isMark
            cases cs with
            | nil => cases rest.nil.1
            | cons d cs =>
                rcases rest.cons with ⟨next, continued, rest⟩ | ⟨-, ends, -⟩
                · rcases Option.ite_none_right_eq_some.1 continued with ⟨digit, same⟩
                  cases same
                  rcases rest.hexDigits with ⟨ends, ground⟩
                  have back : (d :: cs).dropWhile isHexDigit = cs.dropWhile isHexDigit :=
                    List.dropWhile_cons_of_pos digit
                  rw [← back] at ends ground
                  exact ⟨_, afterToken?_hexDigits digit ends, ground⟩
                · cases ends
        · rcases Option.ite_none_right_eq_some.1 continued with ⟨digit, same⟩
          cases same
          rcases rest.digits with ⟨ends, ground⟩
          have back : (c :: cs).dropWhile Char.isDigit = cs.dropWhile Char.isDigit :=
            List.dropWhile_cons_of_pos digit
          rw [← back] at ends ground
          exact ⟨_, afterToken?_digits (by decide) ends, ground⟩
      -- The zero is the whole number, and as such a number of one decimal digit.
      · have separator : c ∈ separators := of_decide_eq_true ends
        have back : (c :: cs).dropWhile Char.isDigit = c :: cs :=
          List.dropWhile_cons_of_neg (by simp [(separator_facts separator).2.1])
        have ends : StartsIn separators ((c :: cs).dropWhile Char.isDigit) := by
          rw [back]
          exact ⟨c, cs, rfl, separator⟩
        refine ⟨_, afterToken?_digits (by decide) ends, ?_⟩
        rw [back]
        exact rest

/-- Two slashes begin a comment, and one slash begins nothing else. -/
theorem Reads.slash (reads : Reads .slash opened cs) :
    ∃ rest, tokenizesFrom opened ('/' :: cs) = tokenizesFrom opened rest ∧
      rest.length ≤ cs.length ∧ Reads .ground opened rest := by
  cases cs with
  | nil => cases reads.nil.1
  | cons c cs =>
      rcases reads.cons with ⟨next, continued, rest⟩ | ⟨-, ends, -⟩
      · rcases Option.ite_none_right_eq_some.1 continued with ⟨rfl, same⟩
        cases same
        rcases rest.comment with ⟨plain, ground⟩
        refine ⟨afterLine cs, tokenizesFrom_comment plain, ?_, ground⟩
        exact Nat.le_succ_of_le (length_afterLine_le cs)
      · cases ends

theorem Reads.lifetime (reads : Reads .lifetime opened cs) :
    afterToken? ('\x27' :: cs) = some cs ∧ Reads .ground opened cs := by
  cases cs with
  | nil => cases reads.nil.1
  | cons c cs =>
      rcases reads.cons with ⟨next, continued, rest⟩ | ⟨-, ends, -⟩
      · rcases Option.ite_none_right_eq_some.1 continued with ⟨start, same⟩
        cases same
        exact ⟨afterToken?_lifetime start rest.word.1, .of_word start rest⟩
      · cases ends

/-- What may begin between tokens. -/
theorem kind_of_start? {mode : Mode} (started : Mode.start? c = some mode) :
    mode = .ground ∧ (c = ' ' ∨ c = '\n') ∨ mode = .ground ∧ c ∈ marks ∨
      mode = .word ∧ isWordStart c = true ∨ mode = .zero ∧ c = '0' ∨
      mode = .digits ∧ c.isDigit = true ∨ mode = .string ∧ c = '\x22' ∨ mode = .slash ∧ c = '/' ∨
      mode = .lifetime ∧ c = '\x27' := by
  rw [Mode.start?] at started
  split_ifs at started with blankOrMark
  · cases started
    rcases blankOrMark with blank | blank | mark
    · exact .inl ⟨rfl, .inl blank⟩
    · exact .inl ⟨rfl, .inr blank⟩
    · exact .inr (.inl ⟨rfl, mark⟩)
  all_goals
    cases started
    simp [*]

/-- What begins between tokens ends between tokens. -/
theorem Reads.token {mode : Mode}
    (noBracket : Bracket.opening? c = none ∧ Bracket.closing? c = none)
    (started : Mode.start? c = some mode) (reads : Reads mode opened cs) :
    ∃ rest, tokenizesFrom opened (c :: cs) = tokenizesFrom opened rest ∧
      rest.length ≤ cs.length ∧ Reads .ground opened rest := by
  -- A literal, a mark or a word is passed as a whole.
  have passed {rest : List Char} (starts : StartsToken c)
      (token : afterToken? (c :: cs) = some rest) (ground : Reads .ground opened rest) :
      ∃ rest, tokenizesFrom opened (c :: cs) = tokenizesFrom opened rest ∧
        rest.length ≤ cs.length ∧ Reads .ground opened rest :=
    ⟨rest, tokenizesFrom_token noBracket starts token,
      Nat.le_of_lt_succ (afterToken?_consumes token),
      ground⟩
  rcases kind_of_start? started with ⟨rfl, blank⟩ | ⟨rfl, mark⟩ | ⟨rfl, start⟩ | ⟨rfl, rfl⟩ |
    ⟨rfl, digit⟩ | ⟨rfl, rfl⟩ | ⟨rfl, rfl⟩ | ⟨rfl, rfl⟩
  · exact ⟨cs, tokenizesFrom_space blank, Nat.le_refl _, reads⟩
  · exact passed (startsToken_of_mem (by simp [mark])) (afterToken?_mark mark) reads
  · rcases reads.word with ⟨ends, ground⟩
    have starts := startsToken_of_isWordPart (isWordPart_of_isWordStart start)
    exact passed starts (afterToken?_word start ends) ground
  · rcases reads.zero with ⟨rest, token, ground⟩
    exact passed (startsToken_of_isWordPart (by decide)) token ground
  · rcases reads.digits with ⟨ends, ground⟩
    have starts := startsToken_of_isWordPart (isWordPart_of_isDigit digit)
    exact passed starts (afterToken?_digits digit ends) ground
  · rcases reads.string with ⟨rest, literal, ground⟩
    have text : afterTextLiteral? ('\x22' :: cs) = afterString? .text cs := rfl
    have token : afterToken? ('\x22' :: cs) = some rest := by
      rw [afterToken?, text, literal]
      rfl
    exact passed (startsToken_of_mem (by decide)) token ground
  · exact reads.slash
  · rcases reads.lifetime with ⟨token, ground⟩
    exact passed (startsToken_of_mem (by decide)) token ground

theorem startsToken_of_bracket {b : Bracket}
    (bracket : Bracket.opening? c = some b ∨ Bracket.closing? c = some b) : StartsToken c := by
  refine startsToken_of_mem (List.mem_append_right _ ?_)
  rcases bracket with opening | closing
  · rw [Bracket.opening?] at opening
    split at opening
    · simp [*]
    · split at opening
      · simp [*]
      · simp [(Option.ite_none_right_eq_some.1 opening).1]
  · rw [Bracket.closing?] at closing
    split at closing
    · simp [*]
    · split at closing
      · simp [*]
      · simp [(Option.ite_none_right_eq_some.1 closing).1]

/-- What is read to its end falls into tokens. -/
theorem tokenizesFrom_of_reads (reads : Reads .ground opened cs) :
    tokenizesFrom opened cs = true := by
  -- Each case passes one token or what stands before it, and what is left is shorter.
  induction shorter : cs.length using Nat.strongRecOn generalizing opened cs with
  | ind n ih =>
      subst shorter
      cases cs with
      | nil =>
          rcases reads.nil with ⟨-, rfl⟩
          rw [tokenizesFrom.eq_def, skipTrivia_of_none rfl]
          rfl
      | cons c cs =>
          have less : cs.length < (c :: cs).length := Nat.lt_succ_self _
          rcases reads.begun with ⟨b, opening, rest⟩ |
            ⟨b, after, noOpening, closing, closes, rest⟩ | ⟨mode, noBracket, started, rest⟩
          · rw [tokenizesFrom_opening opening (startsToken_of_bracket (.inl opening))]
            exact ih _ less rest rfl
          · have starts := startsToken_of_bracket (.inr closing)
            rw [tokenizesFrom_closing noOpening closing closes starts]
            exact ih _ less rest rfl
          · rcases rest.token noBracket started with ⟨back, same, le, ground⟩
            rw [same]
            exact ih _ (Nat.lt_of_le_of_lt le less) ground rfl

end Lexical
end ClusterCodec

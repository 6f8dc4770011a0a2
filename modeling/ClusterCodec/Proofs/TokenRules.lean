import ClusterCodec.Proofs.LexicalRun

/-!
# TokenRules — what the tokenizer does with the front of a text

One rule for each kind of token that generated source has. A rule says where the token ends when the
text goes on as generated source does, and that the tokenizer goes on from there.

- `tokenizesFrom_space`, `tokenizesFrom_comment`: what stands between tokens.
- `tokenizesFrom_opening`, `tokenizesFrom_closing`: brackets.
- `tokenizesFrom_token`: any other token, with `afterToken?_mark`, `afterToken?_word`,
  `afterToken?_digits`, `afterToken?_hexDigits`, `afterToken?_string`, `afterToken?_lifetime`.
-/

namespace ClusterCodec
namespace Lexical

open Text

variable {opened : List Bracket} {c : Char} {cs rest : List Char}

/-! ## Between tokens -/

theorem tokenizesFrom_of_skipTrivia_eq {front back : List Char}
    (same : skipTrivia front = skipTrivia back) (opened : List Bracket) :
    tokenizesFrom opened front = tokenizesFrom opened back := by
  rw [tokenizesFrom.eq_def, tokenizesFrom.eq_def, same]

theorem skipTrivia_of_some (trivium : afterTrivium? cs = some rest) :
    skipTrivia cs = skipTrivia rest := by
  rw [skipTrivia.eq_def]
  split
  · next token =>
      rw [trivium] at token
      cases token
  · next other =>
      rw [trivium] at other
      cases other
      rfl

theorem skipTrivia_of_none (token : afterTrivium? cs = none) : skipTrivia cs = cs := by
  rw [skipTrivia.eq_def]
  split
  · rfl
  · next trivium =>
      rw [token] at trivium
      cases trivium

theorem tokenizesFrom_space (blank : c = ' ' ∨ c = '\n') :
    tokenizesFrom opened (c :: cs) = tokenizesFrom opened cs := by
  refine tokenizesFrom_of_skipTrivia_eq (skipTrivia_of_some ?_) opened
  rcases blank with rfl | rfl <;> rfl

/-- A text that is no trivia at its front begins with a step. -/
theorem tokenizesFrom_of_step {s : Step} {after : List Bracket} (token : afterTrivium? cs = none)
    (step : step? cs = some (s, rest)) (brackets : afterStep? opened s = some after) :
    tokenizesFrom opened cs = tokenizesFrom after rest := by
  have nonempty : cs.isEmpty = false := by
    cases cs with
    | nil => cases step
    | cons c cs => rfl
  rw [tokenizesFrom.eq_def, skipTrivia_of_none token, nonempty, if_neg Bool.false_ne_true]
  split
  · next none =>
      rw [step] at none
      cases none
  · next some =>
      rw [step] at some
      cases some
      rw [brackets]

theorem returnsPaired_of_notMem (absent : '\r' ∉ cs) : returnsPaired cs = true := by
  fun_induction returnsPaired cs with
  | case1 cs ih => exact absurd List.mem_cons_self absent
  | case2 => exact absurd List.mem_cons_self absent
  | case3 c cs _ _ ih => exact ih fun inside => absent (List.mem_cons_of_mem c inside)
  | case4 => rfl

theorem mem_of_mem_lineText (h : c ∈ lineText cs) : c ∈ cs.takeWhile (· != '\n') := by
  unfold lineText at h
  dsimp only at h
  split at h
  · exact List.dropLast_subset _ h
  · exact h

theorem mem_takeWhile_drop_one (first : cs.head?.any (· != '\n') = true)
    (h : c ∈ (cs.drop 1).takeWhile (· != '\n')) : c ∈ cs.takeWhile (· != '\n') := by
  cases cs with
  | nil => exact h
  | cons d cs =>
      have notBreak : (d != '\n') = true := first
      rw [List.takeWhile_cons, notBreak]
      exact List.mem_cons_of_mem d h

theorem head_of_isDocLine (documentation : isDocLine cs = true) :
    cs.head?.any (· != '\n') = true := by
  unfold isDocLine at documentation
  split at documentation
  · rfl
  · rfl
  · rfl
  · cases documentation

theorem afterTrivium?_slashes :
    afterTrivium? ('/' :: '/' :: cs) = if isDocLine cs then none else some (afterLine cs) := rfl

theorem afterDoc?_slashes : afterDoc? ('/' :: '/' :: cs) =
    if isDocLine cs && returnsPaired (lineText (cs.drop 1)) then some (afterLine cs) else none :=
  rfl

/-- A line of comment ends with its line, be it documentation or not. -/
theorem tokenizesFrom_comment (plain : '\r' ∉ cs.takeWhile (· != '\n')) :
    tokenizesFrom opened ('/' :: '/' :: cs) = tokenizesFrom opened (afterLine cs) := by
  cases documentation : isDocLine cs with
  | false =>
      refine tokenizesFrom_of_skipTrivia_eq (skipTrivia_of_some ?_) opened
      rw [afterTrivium?_slashes, documentation]
      rfl
  | true =>
      have paired : returnsPaired (lineText (cs.drop 1)) = true := by
        refine returnsPaired_of_notMem fun inside => plain ?_
        exact mem_takeWhile_drop_one (head_of_isDocLine documentation) (mem_of_mem_lineText inside)
      have trivium : afterTrivium? ('/' :: '/' :: cs) = none := by
        rw [afterTrivium?_slashes, documentation]
        rfl
      have doc : afterDoc? ('/' :: '/' :: cs) = some (afterLine cs) := by
        rw [afterDoc?_slashes, documentation, paired]
        rfl
      refine tokenizesFrom_of_step trivium (s := .token) ?_ rfl
      rw [step?, doc]

/-- What is no trivia and no comment at its front. -/
structure StartsToken (c : Char) : Prop where
  noGap : isGap c = false
  noSlash : c ≠ '/'

theorem StartsToken.afterTrivium? (starts : StartsToken c) :
    Lexical.afterTrivium? (c :: cs) = none := by
  rw [Lexical.afterTrivium?.eq_def]
  split
  · next same => exact absurd (List.cons.inj same).1 starts.noSlash
  · next same => exact absurd (List.cons.inj same).1 starts.noSlash
  · next same =>
      rw [← (List.cons.inj same).1, starts.noGap]
      rfl
  · rfl

theorem StartsToken.afterDoc? (starts : StartsToken c) : Lexical.afterDoc? (c :: cs) = none := by
  rw [Lexical.afterDoc?.eq_def]
  split
  · next same => exact absurd (List.cons.inj same).1 starts.noSlash
  · next same => exact absurd (List.cons.inj same).1 starts.noSlash
  · rfl

theorem tokenizesFrom_opening {b : Bracket} (opening : Bracket.opening? c = some b)
    (starts : StartsToken c) :
    tokenizesFrom opened (c :: cs) = tokenizesFrom (b :: opened) cs := by
  refine tokenizesFrom_of_step starts.afterTrivium? (s := .opening b) ?_ rfl
  simp [step?, starts.afterDoc?, opening]

theorem tokenizesFrom_closing {b : Bracket} {after : List Bracket}
    (noOpening : Bracket.opening? c = none) (closing : Bracket.closing? c = some b)
    (closes : afterStep? opened (.closing b) = some after) (starts : StartsToken c) :
    tokenizesFrom opened (c :: cs) = tokenizesFrom after cs := by
  refine tokenizesFrom_of_step starts.afterTrivium? (s := .closing b) ?_ closes
  simp [step?, starts.afterDoc?, noOpening, closing]

theorem tokenizesFrom_token (noBracket : Bracket.opening? c = none ∧ Bracket.closing? c = none)
    (starts : StartsToken c) (token : afterToken? (c :: cs) = some rest) :
    tokenizesFrom opened (c :: cs) = tokenizesFrom opened rest := by
  refine tokenizesFrom_of_step starts.afterTrivium? (s := .token) ?_ rfl
  simp [step?, starts.afterDoc?, noBracket.1, noBracket.2, token]

/-! ## Marks -/

theorem afterTextLiteral?_of_notMem (other : c ∉ ['\x22', 'r', 'b', 'c', '\x27']) :
    afterTextLiteral? (c :: cs) = none := by
  rw [afterTextLiteral?.eq_def]
  split
  case h_9 => rfl
  all_goals
    next same =>
      rw [(List.cons.inj same).1] at other
      exact absurd other (by decide)

theorem digitValue?_ten (noDigit : c.isDigit = false) : Numeral.digitValue? 10 c = none := by
  have range : ('0' ≤ c && c ≤ '9') = false := noDigit
  unfold Numeral.digitValue?
  simp only [range, Bool.false_eq_true, if_false]
  split
  · rw [Option.filter_some, if_neg (by simp)]
  · split
    · rw [Option.filter_some, if_neg (by simp)]
    · rfl

/-- Without the mark of another base, an integer is decimal. -/
theorem afterInteger?_of_noMark (noMark : c = '0' → ∀ d rest, cs = d :: rest → d ∉ ['x', 'o', 'b']) :
    afterInteger? (c :: cs) = (afterDigits? 10 false (c :: cs)).bind wordEnd? := by
  have other {d : Char} {rest : List Char} (same : c :: cs = '0' :: d :: rest) :
      d ∉ ['x', 'o', 'b'] :=
    noMark (List.cons.inj same).1 d rest (List.cons.inj same).2
  rw [afterInteger?.eq_def]
  split
  · next same => exact absurd (other same) (by decide)
  · next same => exact absurd (other same) (by decide)
  · next same => exact absurd (other same) (by decide)
  · rfl

theorem afterNumber?_of_noDigit (noDigit : c.isDigit = false) : afterNumber? (c :: cs) = none := by
  have noFloat : afterFloat? (c :: cs) = none := by
    unfold afterFloat?
    simp only [List.head?_cons, Option.any_some, noDigit]
    rfl
  have noZero : c ≠ '0' := by
    rintro rfl
    cases noDigit
  have noDigits : afterDigits? 10 false (c :: cs) = none := by
    simp [afterDigits?, digitValue?_ten noDigit, noDigit]
  have noInteger : afterInteger? (c :: cs) = none := by
    rw [afterInteger?_of_noMark fun zero => absurd zero noZero, noDigits]
    rfl
  rw [afterNumber?, noFloat, noInteger]
  rfl

theorem afterPunctuation?_of_ne (noSlash : c ≠ '/') (noQuote : c ≠ '\x27') :
    afterPunctuation? (c :: cs) = if isMark c then some cs else none := by
  rw [afterPunctuation?]
  all_goals
    intros
    contradiction

theorem afterPunctuation?_mark (mark : c ∈ marks) : afterPunctuation? (c :: cs) = some cs := by
  have all : ∀ c ∈ marks, isMark c = true ∧ c ≠ '/' ∧ c ≠ '\x27' := by decide
  rcases all c mark with ⟨isMark, noSlash, noQuote⟩
  rw [afterPunctuation?_of_ne noSlash noQuote, if_pos isMark]

/-- A mark is a token. -/
theorem afterToken?_mark (mark : c ∈ marks) : afterToken? (c :: cs) = some cs := by
  have all : ∀ c ∈ marks, c ∉ ['\x22', 'r', 'b', 'c', '\x27'] ∧ c.isDigit = false := by decide
  rcases all c mark with ⟨noText, noDigit⟩
  rw [afterToken?, afterTextLiteral?_of_notMem noText, afterNumber?_of_noDigit noDigit,
    afterPunctuation?_mark mark]
  rfl

/-! ## Words -/

/-- The text goes on with one of the characters. -/
def StartsIn (behind cs : List Char) : Prop :=
  ∃ c rest, cs = c :: rest ∧ c ∈ behind

theorem startsWord_of_isWordStart (h : isWordStart c = true) : WordChar.startsWord c = true := by
  rw [isWordStart] at h
  rw [WordChar.startsWord, h]
  rfl

theorem continuesWord_of_isWordPart (h : isWordPart c = true) :
    WordChar.continuesWord c = true := by
  rw [WordChar.continuesWord, WordChar.startsWord]
  simp only [Bool.or_eq_true]
  rcases isWordPart_iff.1 h with alphanum | rfl
  · rcases isAlphanum_iff.1 alphanum with letter | digit
    · exact .inl (.inl (.inl (.inl letter)))
    · exact .inl (.inr digit)
  · exact .inl (.inl (.inl (.inr rfl)))

theorem not_continuesWord (h : c ∈ separatorsOrPoint) :
    WordChar.continuesWord c = false ∧ WordChar.startsWord c = false := by
  have all : ∀ c ∈ separatorsOrPoint,
      WordChar.continuesWord c = false ∧ WordChar.startsWord c = false := by decide
  exact all c h

theorem dropWhile_eq_of_imp {p q : Char → Bool} (imp : ∀ c, p c = true → q c = true)
    (stops : ∀ c rest, cs.dropWhile p = c :: rest → q c = false) :
    cs.dropWhile q = cs.dropWhile p := by
  induction cs with
  | nil => rfl
  | cons c cs ih =>
      cases hc : p c with
      | true =>
          rw [List.dropWhile_cons_of_pos hc, List.dropWhile_cons_of_pos (imp c hc)]
          refine ih fun d rest found => stops d rest ?_
          rw [List.dropWhile_cons_of_pos hc, found]
      | false =>
          have here : (c :: cs).dropWhile p = c :: cs :=
            List.dropWhile_cons_of_neg (by simp [hc])
          rw [here, List.dropWhile_cons_of_neg (by simp [stops c cs here])]

theorem afterWord?_of_startsIn (start : isWordStart c = true)
    (ends : StartsIn separatorsOrPoint (cs.dropWhile isWordPart)) :
    afterWord? (c :: cs) = some (cs.dropWhile isWordPart) := by
  rcases ends with ⟨d, rest, found, separator⟩
  have same : cs.dropWhile WordChar.continuesWord = cs.dropWhile isWordPart := by
    refine dropWhile_eq_of_imp (fun _ => continuesWord_of_isWordPart) fun e rest' found' => ?_
    rw [found] at found'
    rw [← (List.cons.inj found').1]
    exact (not_continuesWord separator).1
  rw [afterWord?, startsWord_of_isWordStart start, same]
  rfl

/-- The characters that make the start of a literal of a word. -/
def quotes : List Char :=
  ['\x22', '\x27', '#']

/-- The text goes on with a character that makes no literal of the word before it. -/
def Unquoted (cs : List Char) : Prop :=
  ∃ c rest, cs = c :: rest ∧ c ∉ quotes

theorem unquoted_of_word (ends : StartsIn separatorsOrPoint (cs.dropWhile isWordPart)) :
    Unquoted cs := by
  have none : ∀ c ∈ separatorsOrPoint, c ∉ quotes := by decide
  have noPart : ∀ c ∈ quotes, isWordPart c = false := by decide
  cases cs with
  | nil =>
      rcases ends with ⟨c, rest, found, -⟩
      cases found
  | cons c cs =>
      refine ⟨c, cs, rfl, fun inside => ?_⟩
      rcases ends with ⟨d, rest, found, separator⟩
      rw [List.dropWhile_cons_of_neg (by simp [noPart c inside])] at found
      rw [(List.cons.inj found).1] at inside
      exact none d separator inside

theorem afterRawString?_of_unquoted (kind : LiteralKind) (unquoted : Unquoted cs) :
    afterRawString? kind cs = none := by
  rcases unquoted with ⟨c, rest, rfl, other⟩
  have noSign : (c == '#') = false := by
    refine beq_false_of_ne fun same => other ?_
    rw [same]
    decide
  rw [afterRawString?, List.dropWhile_cons_of_neg (by simp [noSign])]
  split
  · next same =>
      rw [(List.cons.inj same).1] at other
      exact absurd other (by decide)
  · rfl

theorem afterTextLiteral?_of_word (start : isWordStart c = true) (unquoted : Unquoted cs)
    (unquotedTail : ∀ tail, cs = 'r' :: tail → Unquoted tail) :
    afterTextLiteral? (c :: cs) = none := by
  have noQuote {d : Char} {tail : List Char} (same : cs = d :: tail) :
      d ∉ quotes := by
    rcases unquoted with ⟨d', tail', same', other⟩
    rw [same] at same'
    rwa [(List.cons.inj same').1]
  -- A literal that begins with a letter has its quote, or the sign of a raw string, as the second
  -- character, or as the third one behind `br` and `cr`.
  rw [afterTextLiteral?.eq_def]
  split
  · next same =>
      rw [(List.cons.inj same).1] at start
      cases start
  · next same =>
      rw [← (List.cons.inj same).2]
      exact afterRawString?_of_unquoted _ unquoted
  · next same => exact absurd (noQuote (List.cons.inj same).2) (by decide)
  · next same => exact afterRawString?_of_unquoted _ (unquotedTail _ (List.cons.inj same).2)
  · next same => exact absurd (noQuote (List.cons.inj same).2) (by decide)
  · next same => exact absurd (noQuote (List.cons.inj same).2) (by decide)
  · next same => exact afterRawString?_of_unquoted _ (unquotedTail _ (List.cons.inj same).2)
  · next same =>
      rw [(List.cons.inj same).1] at start
      cases start
  · rfl

theorem quotes_of_mem_literalStarts {start : String} (h : start ∈ literalStarts) :
    ∃ a b tail, start.toList = a :: b :: tail ∧
      (b ∈ quotes ∨ b = 'r' ∧ ∃ e tail', tail = e :: tail' ∧ e ∈ quotes) := by
  -- The cases that are named have their quote behind a second letter.
  simp only [literalStarts, List.mem_cons, List.not_mem_nil, or_false] at h
  rcases h with rfl | rfl | rfl | rfl | rfl | rfl | rfl | rfl | rfl | rfl
  case inr.inr.inr.inr.inr.inl => exact ⟨'b', 'r', ['\x22'], rfl, .inr ⟨rfl, _, _, rfl, by decide⟩⟩
  case inr.inr.inr.inr.inr.inr.inl => exact ⟨'b', 'r', ['#'], rfl, .inr ⟨rfl, _, _, rfl, by decide⟩⟩
  case inr.inr.inr.inr.inr.inr.inr.inr.inl =>
    exact ⟨'c', 'r', ['\x22'], rfl, .inr ⟨rfl, _, _, rfl, by decide⟩⟩
  case inr.inr.inr.inr.inr.inr.inr.inr.inr =>
    exact ⟨'c', 'r', ['#'], rfl, .inr ⟨rfl, _, _, rfl, by decide⟩⟩
  all_goals exact ⟨_, _, _, rfl, .inl (by decide)⟩

theorem startsLiteral_eq_false (unquoted : Unquoted cs)
    (unquotedTail : ∀ tail, cs = 'r' :: tail → Unquoted tail) :
    startsLiteral (c :: cs) = false := by
  rw [startsLiteral, List.any_eq_false]
  intro start listed isPrefix
  rcases quotes_of_mem_literalStarts listed with ⟨a, b, tail, split, quoted⟩
  rw [split, List.isPrefixOf_iff_prefix] at isPrefix
  rcases List.cons_prefix_cons.1 isPrefix with ⟨-, isPrefix⟩
  rcases unquoted with ⟨d, rest, rfl, other⟩
  rcases List.cons_prefix_cons.1 isPrefix with ⟨rfl, isPrefix⟩
  rcases quoted with quoted | ⟨rfl, e, tail', rfl, quoted⟩
  · exact other quoted
  · rcases unquotedTail rest rfl with ⟨e', rest', rfl, other⟩
    rcases List.cons_prefix_cons.1 isPrefix with ⟨-, isPrefix⟩
    rcases List.cons_prefix_cons.1 isPrefix with ⟨rfl, -⟩
    exact other quoted

theorem afterPunctuation?_of_word (start : isWordStart c = true) :
    afterPunctuation? (c :: cs) = none := by
  have noMark : isMark c = false ∧ c ≠ '/' ∧ c ≠ '\x27' := by
    have all : ∀ d ∈ '\x27' :: "~!@#$%^&*-=+|;:,<.>/?".toList, isWordStart d = false := by decide
    have other : c ∉ '\x27' :: "~!@#$%^&*-=+|;:,<.>/?".toList := by
      intro inside
      rw [all c inside] at start
      cases start
    refine ⟨?_, ?_, ?_⟩
    · exact decide_eq_false fun inside => other (List.mem_cons_of_mem _ inside)
    · rintro rfl
      exact other (by decide)
    · rintro rfl
      exact other (by decide)
  rw [afterPunctuation?_of_ne noMark.2.1 noMark.2.2, noMark.1]
  rfl

theorem afterAnyWord?_of_startsIn (start : isWordStart c = true)
    (ends : StartsIn separatorsOrPoint (cs.dropWhile isWordPart)) :
    afterAnyWord? (c :: cs) = some (cs.dropWhile isWordPart) := by
  rw [afterAnyWord?.eq_def]
  split
  -- The front of a raw identifier is no word here.
  · next same =>
      rcases unquoted_of_word ends with ⟨d, rest, same', other⟩
      rw [(List.cons.inj same).2] at same'
      rw [← (List.cons.inj same').1] at other
      exact absurd other (by decide)
  · exact afterWord?_of_startsIn start ends

/-- A word ends where nothing continues it. -/
theorem afterToken?_word (start : isWordStart c = true)
    (ends : StartsIn separatorsOrPoint (cs.dropWhile isWordPart)) :
    afterToken? (c :: cs) = some (cs.dropWhile isWordPart) := by
  have unquoted := unquoted_of_word ends
  -- A word may begin with `br` or `cr` and is still no raw string.
  have unquotedTail : ∀ tail, cs = 'r' :: tail → Unquoted tail := by
    rintro tail rfl
    have part : isWordPart 'r' = true := by decide
    rw [List.dropWhile_cons_of_pos part] at ends
    exact unquoted_of_word ends
  have noDigit : c.isDigit = false := isDigit_eq_false_of_isWordStart start
  rw [afterToken?, afterTextLiteral?_of_word start unquoted unquotedTail,
    afterNumber?_of_noDigit noDigit, afterPunctuation?_of_word start, afterIdentifier?,
    startsLiteral_eq_false unquoted unquotedTail, afterAnyWord?_of_startsIn start ends]
  rfl

theorem afterQuotedChar?_of_word (start : isWordStart c = true) (unquoted : Unquoted cs) :
    afterQuotedChar? .text (c :: cs) = none := by
  have noEscape : c ≠ '\\' := by
    rintro rfl
    cases start
  rcases unquoted with ⟨d, rest, rfl, other⟩
  have noQuote : d ≠ '\x27' := by
    rintro rfl
    exact other (by decide)
  simp [afterQuotedChar?, LiteralKind.admits, noQuote]

/-- The mark of a lifetime is a token before the word. -/
theorem afterToken?_lifetime (start : isWordStart c = true)
    (ends : StartsIn separatorsOrPoint (cs.dropWhile isWordPart)) :
    afterToken? ('\x27' :: c :: cs) = some (c :: cs) := by
  have noText : afterTextLiteral? ('\x27' :: c :: cs) = none :=
    afterQuotedChar?_of_word start (unquoted_of_word ends)
  have lifetime : beginsLifetime (c :: cs) = true := by
    have other : ∀ d ∈ separatorsOrPoint, d ≠ '\x27' ∧ d ≠ '#' := by decide
    rcases ends with ⟨d, rest, found, separator⟩
    rw [beginsLifetime, afterAnyWord?_of_startsIn start ⟨d, rest, found, separator⟩, found]
    -- Only a quote or a number sign behind the word would make it something else.
    split
    · next none => cases none
    · next same =>
        exact absurd (List.cons.inj (Option.some.inj same)).1 (other d separator).1
    · next same =>
        exact absurd (List.cons.inj (Option.some.inj same)).1 (other d separator).2
    · rfl
  have punctuation : afterPunctuation? ('\x27' :: c :: cs) =
      if beginsLifetime (c :: cs) then some (c :: cs) else none := rfl
  rw [afterToken?, noText, afterNumber?_of_noDigit (by decide), punctuation, lifetime]
  rfl

/-! ## Numbers -/

theorem wordEnd?_of_startsIn (ends : StartsIn separators cs) : wordEnd? cs = some cs := by
  rcases ends with ⟨d, rest, rfl, separator⟩
  rcases not_continuesWord (List.mem_cons_of_mem '.' separator) with ⟨noPart, noStart⟩
  have suffix : afterSuffix (d :: rest) = d :: rest := by
    rw [afterSuffix, afterWord?, noStart]
    rfl
  rw [wordEnd?, suffix]
  simp [noPart]

theorem separator_facts (separator : c ∈ separators) :
    c ≠ '_' ∧ c.isDigit = false ∧ c ∉ ['.', 'e', 'E'] := by
  have all : ∀ c ∈ separators, c ≠ '_' ∧ c.isDigit = false ∧ c ∉ ['.', 'e', 'E'] := by decide
  exact all c separator

/-- The digits of a number end where another character stands. -/
theorem afterDigits?_of_startsIn {base : Nat} {isDigit : Char → Bool} {seen : Bool}
    (digits : ∀ c, isDigit c = (Numeral.digitValue? base c).isSome)
    (ends : StartsIn separators (cs.dropWhile isDigit))
    (begun : seen = true ∨ cs.head?.any isDigit = true) :
    afterDigits? base seen cs = some (cs.dropWhile isDigit) := by
  have noJoin : isDigit '_' = false := by
    rw [digits, Numeral.digitValue?]
    rfl
  -- By induction on the text; `seen` says whether a digit stands before what is left of it.
  induction cs generalizing seen with
  | nil =>
      rcases ends with ⟨d, rest, none, -⟩
      cases none
  | cons c cs ih =>
      cases digit : isDigit c with
      | true =>
          have noJoin : c ≠ '_' := by
            rintro rfl
            rw [noJoin] at digit
            cases digit
          rw [List.dropWhile_cons_of_pos digit] at ends ⊢
          rw [afterDigits?, if_neg noJoin, if_pos ((digits c).symm.trans digit)]
          exact ih ends (.inl rfl)
      | false =>
          rw [List.dropWhile_cons_of_neg (by simp [digit])] at ends ⊢
          rcases ends with ⟨d, rest, same, separator⟩
          rcases List.cons.inj same with ⟨rfl, rfl⟩
          have seen : seen = true := by
            rcases begun with seen | first
            · exact seen
            · rw [List.head?_cons, Option.any_some, digit] at first
              cases first
          rcases separator_facts separator with ⟨noJoin, noDigit, -⟩
          rw [afterDigits?, if_neg noJoin, ← digits, digit, noDigit, seen]
          rfl

theorem isSome_digitValue?_ten (c : Char) :
    c.isDigit = (Numeral.digitValue? 10 c).isSome := by
  cases digit : c.isDigit with
  | false => rw [digitValue?_ten digit]; rfl
  | true =>
      have range : ('0' ≤ c && c ≤ '9') = true := digit
      have small : c.toNat - '0'.toNat < 10 := by
        have bound := (isDigit_iff.1 digit).2
        change c.toNat - 48 < 10
        omega
      unfold Numeral.digitValue?
      rw [if_pos range, Option.filter_some, if_pos (decide_eq_true small)]
      rfl

/-- Digits are a float only with a point or an exponent behind them. -/
theorem afterPoint?_of_notMem (other : c ∉ ['.', 'e', 'E']) : afterPoint? (c :: cs) = none := by
  rw [afterPoint?]
  all_goals
    rintro _ ⟨rfl, rfl⟩
    exact absurd other (by decide)

theorem afterFloat?_of_digits (first : c.isDigit = true)
    (ends : StartsIn separators (cs.dropWhile Char.isDigit)) : afterFloat? (c :: cs) = none := by
  rcases ends with ⟨d, rest, found, separator⟩
  rcases separator_facts separator with ⟨noJoin, noDigit, other⟩
  have same : (c :: cs).dropWhile isDigitOrJoin = d :: rest := by
    have firstToo : isDigitOrJoin c = true := by rw [isDigitOrJoin, first]; rfl
    rw [List.dropWhile_cons_of_pos firstToo, ← found]
    refine dropWhile_eq_of_imp (fun e digit => by rw [isDigitOrJoin, digit]; rfl) ?_
    intro e rest' found'
    rw [found] at found'
    rw [← (List.cons.inj found').1, isDigitOrJoin, noDigit, Bool.false_or]
    exact beq_false_of_ne noJoin
  rw [afterFloat?, same, afterPoint?_of_notMem other]
  split <;> rfl

theorem afterTextLiteral?_of_digit (first : c.isDigit = true) :
    afterTextLiteral? (c :: cs) = none := by
  refine afterTextLiteral?_of_notMem fun inside => ?_
  have all : ∀ d ∈ ['\x22', 'r', 'b', 'c', '\x27'], d.isDigit = false := by decide
  rw [all c inside] at first
  cases first

/-- A decimal number ends where another character stands. -/
theorem afterToken?_digits (first : c.isDigit = true)
    (ends : StartsIn separators (cs.dropWhile Char.isDigit)) :
    afterToken? (c :: cs) = some (cs.dropWhile Char.isDigit) := by
  have digits : afterDigits? 10 false (c :: cs) = some (cs.dropWhile Char.isDigit) := by
    have all : (c :: cs).dropWhile Char.isDigit = cs.dropWhile Char.isDigit :=
      List.dropWhile_cons_of_pos first
    rw [← all] at ends ⊢
    exact afterDigits?_of_startsIn isSome_digitValue?_ten ends (.inr first)
  -- The second character is a digit or stands behind the number, so there is no mark of a base.
  have noMark : ∀ d rest, cs = d :: rest → d ∉ ['x', 'o', 'b'] := by
    rintro d rest rfl inside
    have all : ∀ d ∈ ['x', 'o', 'b'], d.isDigit = false ∧ d ∉ separators := by decide
    rcases ends with ⟨e, rest', found, separator⟩
    rw [List.dropWhile_cons_of_neg (by simp [(all d inside).1])] at found
    rw [← (List.cons.inj found).1] at separator
    exact (all d inside).2 separator
  have integer : afterInteger? (c :: cs) = some (cs.dropWhile Char.isDigit) := by
    rw [afterInteger?_of_noMark fun _ => noMark, digits]
    exact wordEnd?_of_startsIn ends
  rw [afterToken?, afterTextLiteral?_of_digit first, afterNumber?,
    afterFloat?_of_digits first ends, integer]
  rfl

/-- A hexadecimal number ends where no digit stands. -/
theorem afterToken?_hexDigits (first : cs.head?.any isHexDigit = true)
    (ends : StartsIn separators (cs.dropWhile isHexDigit)) :
    afterToken? ('0' :: 'x' :: cs) = some (cs.dropWhile isHexDigit) := by
  have digits : afterDigits? 16 false cs = some (cs.dropWhile isHexDigit) :=
    afterDigits?_of_startsIn (fun _ => rfl) ends (.inr first)
  have integer : afterInteger? ('0' :: 'x' :: cs) = (afterDigits? 16 false cs).bind wordEnd? := rfl
  have noFloat : afterFloat? ('0' :: 'x' :: cs) = none := rfl
  rw [afterToken?, afterTextLiteral?_of_digit (by decide), afterNumber?, noFloat, integer, digits,
    Option.bind_some, wordEnd?_of_startsIn ends]
  rfl

end Lexical
end ClusterCodec

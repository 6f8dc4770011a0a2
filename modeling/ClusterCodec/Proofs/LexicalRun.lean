import ClusterCodec.Lexical.Token

/-!
# LexicalRun — reading source text one character at a time

The tokenizer passes one token after the other. Generated text is put together from pieces that end
inside tokens, so here it is read character by character instead, with a mode for what surrounds the
next character.

- `Mode`, `LexState`: the mode and the brackets that are open.
- `LexState.step`, `LexState.run`: the state after a character and after a text; none for what no
  generated text has there.
- `run_append`, `run_within`: texts may be joined, and more brackets may be open around them.
- `isWordStart`, `isWordPart`, `isHexDigit`: the characters of words and numbers.
- `Mode.Refines`, `run_refines`: after a complete token it does not matter which one it was, if what
  follows stands apart from every token.
-/

namespace ClusterCodec
namespace Lexical

open Text

/-! ## States -/

/-- What the next character belongs to. -/
inductive Mode where
  /-- Between tokens. -/
  | ground
  /-- After a token of any kind that is complete as far as it was read. -/
  | complete
  | word
  /-- After the digit zero that begins a number. -/
  | zero
  | digits
  /-- After the mark of a hexadecimal number. -/
  | hexMark
  | hexDigits
  | string
  /-- After a backslash in a string. -/
  | escape
  | codePointStart
  | codePoint (value count : Nat)
  /-- After the end of a string. -/
  | stringEnd
  /-- After one slash. -/
  | slash
  | comment
  /-- After the mark of a lifetime. -/
  | lifetime
  deriving Repr, DecidableEq

structure LexState where
  mode : Mode
  /-- The open brackets, the innermost one first. -/
  opened : List Bracket
  deriving Repr, DecidableEq

/-! ## Characters -/

/-- What holds of the characters of a list is decided along the list, not along all characters. -/
instance decidableForallMem (cs : List Char) (P : Char → Prop) [DecidablePred P] :
    Decidable (∀ c ∈ cs, P c) :=
  List.decidableBAll P cs

section Ranges

variable {c : Char}

theorem isUpper_iff : c.isUpper = true ↔ 65 ≤ c.toNat ∧ c.toNat ≤ 90 :=
  decide_eq_true_iff

theorem isLower_iff : c.isLower = true ↔ 97 ≤ c.toNat ∧ c.toNat ≤ 122 :=
  Bool.and_eq_true_iff.trans (and_congr decide_eq_true_iff decide_eq_true_iff)

theorem isDigit_iff : c.isDigit = true ↔ 48 ≤ c.toNat ∧ c.toNat ≤ 57 :=
  Bool.and_eq_true_iff.trans (and_congr decide_eq_true_iff decide_eq_true_iff)

theorem isAlpha_iff : c.isAlpha = true ↔ c.isUpper = true ∨ c.isLower = true :=
  Bool.or_eq_true_iff

theorem isAlphanum_iff : c.isAlphanum = true ↔ c.isAlpha = true ∨ c.isDigit = true :=
  Bool.or_eq_true_iff

end Ranges

def isWordStart (c : Char) : Bool :=
  c.isAlpha || c == '_'

def isWordPart (c : Char) : Bool :=
  c.isAlphanum || c == '_'

theorem isWordStart_iff {c : Char} : isWordStart c = true ↔ c.isAlpha = true ∨ c = '_' := by
  rw [isWordStart, Bool.or_eq_true, beq_iff_eq]

theorem isWordPart_iff {c : Char} : isWordPart c = true ↔ c.isAlphanum = true ∨ c = '_' := by
  rw [isWordPart, Bool.or_eq_true, beq_iff_eq]

theorem isWordPart_of_isWordStart {c : Char} (start : isWordStart c = true) :
    isWordPart c = true := by
  rw [isWordPart_iff, isAlphanum_iff]
  exact (isWordStart_iff.1 start).imp_left .inl

theorem isWordPart_of_isAlphanum {c : Char} (alphanum : c.isAlphanum = true) :
    isWordPart c = true :=
  isWordPart_iff.2 (.inl alphanum)

theorem isWordPart_of_isDigit {c : Char} (digit : c.isDigit = true) : isWordPart c = true :=
  isWordPart_of_isAlphanum (isAlphanum_iff.2 (.inr digit))

theorem isDigit_eq_false_of_isWordStart {c : Char} (start : isWordStart c = true) :
    c.isDigit = false := by
  rw [← Bool.not_eq_true, isDigit_iff]
  rcases isWordStart_iff.1 start with letter | rfl
  · rcases isAlpha_iff.1 letter with upper | lower
    · have range := isUpper_iff.1 upper
      omega
    · have range := isLower_iff.1 lower
      omega
  · decide

theorem toNat_of_isWordPart {c : Char} (part : isWordPart c = true) :
    48 ≤ c.toNat ∧ c.toNat ≤ 122 := by
  rcases isWordPart_iff.1 part with alphanum | rfl
  · rcases isAlphanum_iff.1 alphanum with letter | digit
    · rcases isAlpha_iff.1 letter with upper | lower
      · have range := isUpper_iff.1 upper
        omega
      · have range := isLower_iff.1 lower
        omega
    · have range := isDigit_iff.1 digit
      omega
  · decide

/-- The digits of hexadecimal numbers. -/
def isHexDigit (c : Char) : Bool :=
  (Numeral.digitValue? 16 c).isSome

/-- The characters that end every token. -/
def separators : List Char :=
  " \n()[]\x7b\x7d,;:|<>=?&*-+!".toList

/-- The characters that end words and strings. -/
def separatorsOrPoint : List Char :=
  '.' :: separators

/-- The marks that are tokens on their own. -/
def marks : List Char :=
  "!#&*-=+|;:,<.>?".toList

/-- What may stand for itself in a string. -/
def isPlainInString (c : Char) : Bool :=
  c != '\n' && c != '\r'

/-- What may follow a backslash in a string and make an escape of two characters. -/
def shortEscapes : List Char :=
  ['n', 'r', 't', '\\', '\x27', '\x22', '0']

namespace Mode

/-- The mode after a character between tokens that is no bracket. -/
def start? (c : Char) : Option Mode :=
  if c = ' ' ∨ c = '\n' ∨ c ∈ marks then some ground
  else if isWordStart c then some word
  else if c = '0' then some zero
  else if c.isDigit then some digits
  else if c = '\x22' then some string
  else if c = '/' then some slash
  -- No character literal is ever generated, so a quote of this kind begins a lifetime.
  else if c = '\x27' then some lifetime
  else none

/-- The mode after a character that continues the token. -/
def continue? (mode : Mode) (c : Char) : Option Mode :=
  match mode with
  | ground | complete | stringEnd => none
  | word => if isWordPart c then some word else none
  | zero => if c = 'x' then some hexMark else if c.isDigit then some digits else none
  | digits => if c.isDigit then some digits else none
  | hexMark | hexDigits => if isHexDigit c then some hexDigits else none
  | string =>
    if c = '\x22' then some stringEnd
    else if c = '\\' then some escape
    else if isPlainInString c then some string
    else none
  | escape =>
    if c ∈ shortEscapes then some string else if c = 'u' then some codePointStart else none
  | codePointStart => if c = '\x7b' then some (codePoint 0 0) else none
  | codePoint value count =>
    match Numeral.digitValue? 16 c with
    | some digit => if count = 6 then none else some (codePoint (value * 16 + digit) (count + 1))
    | none => if c = '\x7d' ∧ count ≠ 0 ∧ value.isValidChar then some string else none
  | slash => if c = '/' then some comment else none
  | comment => if c = '\n' then some ground else if c = '\r' then none else some comment
  | lifetime => if isWordStart c then some word else none

/-- Whether the token may end before a character that does not continue it. -/
def mayEndBefore (mode : Mode) (c : Char) : Bool :=
  match mode with
  | ground => true
  -- A point behind digits would make them the front of a float.
  | complete | zero | digits | hexDigits => c ∈ separators
  | word | stringEnd => c ∈ separatorsOrPoint
  | hexMark | string | escape | codePointStart | codePoint _ _ | slash | comment | lifetime => false

end Mode

namespace LexState

/-- The state after a character between tokens. -/
def start (opened : List Bracket) (c : Char) : Option LexState :=
  match Bracket.opening? c, Bracket.closing? c with
  | some b, _ => some ⟨.ground, b :: opened⟩
  | none, some b => (afterStep? opened (.closing b)).map (⟨.ground, ·⟩)
  | none, none => (Mode.start? c).map (⟨·, opened⟩)

/-- The state after a character. A token ends where the first character behind it is read. -/
def step (s : LexState) (c : Char) : Option LexState :=
  match s.mode.continue? c with
  | some mode => some ⟨mode, s.opened⟩
  | none => if s.mode.mayEndBefore c then start s.opened c else none

/-- The state after a text. -/
def run (s : LexState) : List Char → Option LexState
  | [] => some s
  | c :: cs => (s.step c).bind (run · cs)

/-- More brackets are open around those of the state. -/
def within (s : LexState) (outer : List Bracket) : LexState :=
  ⟨s.mode, s.opened ++ outer⟩

end LexState

/-! ## Texts that are joined -/

namespace LexState

variable {s t : LexState} {c : Char}

theorem run_append (s : LexState) (front back : List Char) :
    s.run (front ++ back) = (s.run front).bind (·.run back) := by
  induction front generalizing s with
  | nil => rfl
  | cons c front ih =>
      rw [List.cons_append, run, run, Option.bind_assoc]
      exact congrArg _ (funext fun next => ih next)

/-- Around a text more brackets may be open. -/
theorem start_within {opened outer : List Bracket} (h : start opened c = some t) :
    start (opened ++ outer) c = some (t.within outer) := by
  rw [start] at h ⊢
  cases hopening : Bracket.opening? c with
  | some b =>
      rw [hopening] at h
      cases h
      rfl
  | none =>
      cases hclosing : Bracket.closing? c with
      | some b =>
          rw [hopening, hclosing] at h
          rcases Option.map_eq_some_iff.1 h with ⟨rest, found, rfl⟩
          -- Only the innermost bracket is looked at, and it is one of those inside.
          cases opened with
          | nil => cases found
          | cons innermost opened =>
              rw [afterStep?] at found
              split at found
              · next same =>
                  cases found
                  simp only [List.cons_append, afterStep?, same, if_true]
                  rfl
              · cases found
      | none =>
          rw [hopening, hclosing] at h
          rcases Option.map_eq_some_iff.1 h with ⟨mode, found, rfl⟩
          simp only [found]
          rfl

theorem step_of_continue {mode : Mode} (h : s.mode.continue? c = some mode) :
    s.step c = some ⟨mode, s.opened⟩ := by
  rw [step, h]

/-- A token goes on as long as its mode does. -/
theorem run_of_continue {mode : Mode} (opened : List Bracket) {text : List Char}
    (continued : ∀ c ∈ text, mode.continue? c = some mode) :
    run ⟨mode, opened⟩ text = some ⟨mode, opened⟩ := by
  induction text with
  | nil => rfl
  | cons c text ih =>
      rw [run, step_of_continue (continued c List.mem_cons_self), Option.bind_some]
      exact ih fun d inside => continued d (List.mem_cons_of_mem c inside)

theorem step_of_end (stops : s.mode.continue? c = none) (ends : s.mode.mayEndBefore c = true) :
    s.step c = start s.opened c := by
  rw [step, stops]
  exact if_pos ends

/-- A character continues the token or begins the next one. -/
theorem continues_or_ends (h : s.step c = some t) :
    (∃ mode, s.mode.continue? c = some mode ∧ t = ⟨mode, s.opened⟩) ∨
      s.mode.continue? c = none ∧ s.mode.mayEndBefore c = true ∧ start s.opened c = some t := by
  rw [step] at h
  cases continued : s.mode.continue? c with
  | some mode =>
      rw [continued] at h
      cases h
      exact .inl ⟨mode, rfl, rfl⟩
  | none =>
      rw [continued] at h
      exact .inr ⟨rfl, Option.ite_none_right_eq_some.1 h⟩

theorem step_within {outer : List Bracket} (h : s.step c = some t) :
    (s.within outer).step c = some (t.within outer) := by
  rcases continues_or_ends h with ⟨mode, continued, rfl⟩ | ⟨stops, ends, next⟩
  · have same : (s.within outer).mode.continue? c = some mode := continued
    exact step_of_continue same
  · have same : (s.within outer).mode.continue? c = none := stops
    rw [step_of_end same ends]
    exact start_within next

theorem run_within {outer : List Bracket} {text : List Char} (h : s.run text = some t) :
    (s.within outer).run text = some (t.within outer) := by
  induction text generalizing s with
  | nil =>
      cases h
      rfl
  | cons c text ih =>
      rw [run] at h ⊢
      rcases Option.bind_eq_some_iff.1 h with ⟨next, first, rest⟩
      rw [step_within first, Option.bind_some]
      exact ih rest

end LexState

/-! ## Complete tokens -/

/-- The mode is the other one, or a token is complete in it and the other one tells no more. -/
inductive Mode.Refines : Mode → Mode → Prop where
  | refl {mode : Mode} : Refines mode mode
  | ground : Refines ground complete
  | word : Refines word complete
  | zero : Refines zero complete
  | digits : Refines digits complete
  | hexDigits : Refines hexDigits complete
  | stringEnd : Refines stringEnd complete

theorem Mode.Refines.trans {a b c : Mode} (first : a.Refines b) (second : b.Refines c) :
    a.Refines c := by
  cases first with
  | refl => exact second
  | _ => cases second; constructor

namespace LexState

variable {s t : LexState} {n : Mode} {opened : List Bracket}

/-- No separator continues a token. -/
theorem continue?_eq_none {c : Char} (refines : n.Refines .complete) (separator : c ∈ separators) :
    n.continue? c = none ∧ n.mayEndBefore c = true := by
  have all : ∀ c ∈ separators, isWordPart c = false ∧ c ≠ 'x' ∧ c.isDigit = false ∧
      isHexDigit c = false := by
    decide
  rcases all c separator with ⟨part, mark, digit, hexDigit⟩
  cases refines <;>
    simp [Mode.continue?, Mode.mayEndBefore, separator, separatorsOrPoint, part, mark, digit,
      hexDigit]

theorem step_refines {c : Char} (refines : n.Refines s.mode) (h : s.step c = some t) :
    ∃ m, m.Refines t.mode ∧ step ⟨n, s.opened⟩ c = some ⟨m, t.opened⟩ := by
  rcases s with ⟨mode, opened⟩
  by_cases same : n = mode
  · subst same
    exact ⟨t.mode, .refl, h⟩
  · have complete : mode = .complete := by
      cases refines with
      | refl => exact absurd rfl same
      | _ => rfl
    subst complete
    rcases continues_or_ends h with ⟨mode, continued, rfl⟩ | ⟨-, ends, next⟩
    · cases continued
    -- The character ends either token, and behind it there is no difference left.
    · rcases continue?_eq_none refines (of_decide_eq_true ends) with ⟨stops, ends⟩
      refine ⟨t.mode, .refl, ?_⟩
      rw [step_of_end stops ends]
      exact next

/-- What may follow any complete token may follow each kind of token. -/
theorem run_refines {text : List Char} (refines : n.Refines s.mode) (h : s.run text = some t) :
    ∃ m, m.Refines t.mode ∧ run ⟨n, s.opened⟩ text = some ⟨m, t.opened⟩ := by
  induction text generalizing s n with
  | nil =>
      cases h
      exact ⟨n, refines, rfl⟩
  | cons c text ih =>
      rw [run] at h
      rcases Option.bind_eq_some_iff.1 h with ⟨next, first, rest⟩
      rcases step_refines refines first with ⟨m, refines, first⟩
      rcases ih refines rest with ⟨m', refines, rest⟩
      refine ⟨m', refines, ?_⟩
      rw [run, first, Option.bind_some]
      exact rest

end LexState
end Lexical
end ClusterCodec

import ClusterCodec.Lexical.NumberLiteral
import ClusterCodec.Lexical.TextLiteral
import ClusterCodec.Lexical.Trivia

/-!
# Token — whether a text falls into tokens with balanced brackets

- `afterToken?`: a literal, a mark or an identifier.
- `tokenizesFrom`, `tokenizes`: the whole text is tokens, documentation and trivia, and every bracket
  is closed by its partner.
-/

namespace ClusterCodec
namespace Lexical

open Text

/-- A literal, a mark or an identifier. -/
def afterToken? (cs : List Char) : Option (List Char) :=
  ((afterTextLiteral? cs).or (afterNumber? cs)).or
    ((afterPunctuation? cs).or (afterIdentifier? cs))

theorem afterToken?_consumes : Consumes afterToken? :=
  orElse_consumes (orElse_consumes afterTextLiteral?_consumes afterNumber?_consumes)
    (orElse_consumes afterPunctuation?_consumes afterIdentifier?_consumes)

/-! ## Brackets -/

inductive Bracket where
  | round
  | square
  | curly
  deriving Repr, DecidableEq

namespace Bracket

def opening? (c : Char) : Option Bracket :=
  if c = '(' then some round
  else if c = '[' then some square
  else if c = '\x7b' then some curly
  else none

def closing? (c : Char) : Option Bracket :=
  if c = ')' then some round
  else if c = ']' then some square
  else if c = '\x7d' then some curly
  else none

end Bracket

/-- A step of the tokenizer: what the front of a text without trivia at its front is. -/
inductive Step where
  | opening (bracket : Bracket)
  | closing (bracket : Bracket)
  | token
  deriving Repr, DecidableEq

/-- The first step of a text without trivia at its front, and what follows it. -/
def step? (cs : List Char) : Option (Step × List Char) :=
  match afterDoc? cs with
  | some rest => some (.token, rest)
  -- A comment that is neither trivia nor documentation is no token: `afterPunctuation?` refuses it.
  | none =>
    match cs with
    | [] => none
    | c :: rest =>
      match Bracket.opening? c, Bracket.closing? c with
      | some b, _ => some (.opening b, rest)
      | none, some b => some (.closing b, rest)
      | none, none => (afterToken? cs).map (.token, ·)

theorem step?_shorter {cs rest : List Char} {s : Step} (h : step? cs = some (s, rest)) :
    rest.length < cs.length := by
  unfold step? at h
  split at h
  · next after hd =>
    simp only [Option.some.injEq, Prod.mk.injEq] at h
    obtain ⟨-, rfl⟩ := h
    exact afterDoc?_consumes hd
  · split at h
    · simp at h
    · split at h
      · simp only [Option.some.injEq, Prod.mk.injEq] at h
        obtain ⟨-, rfl⟩ := h
        simp
      · simp only [Option.some.injEq, Prod.mk.injEq] at h
        obtain ⟨-, rfl⟩ := h
        simp
      · obtain ⟨after, ht, he⟩ := Option.map_eq_some_iff.1 h
        simp only [Prod.mk.injEq] at he
        obtain ⟨-, rfl⟩ := he
        exact afterToken?_consumes ht

/-- The brackets that are open after a step, if it closes none but the innermost. -/
def afterStep? (opened : List Bracket) : Step → Option (List Bracket)
  | .opening b => some (b :: opened)
  | .closing b =>
    match opened with
    | innermost :: outer => if innermost = b then some outer else none
    | [] => none
  | .token => some opened

/-- Whether a text falls into tokens, with some brackets open before it. -/
def tokenizesFrom (opened : List Bracket) (cs : List Char) : Bool :=
  if (skipTrivia cs).isEmpty then opened.isEmpty
  else
    match _step : step? (skipTrivia cs) with
    | none => false
    | some (s, rest) =>
      match afterStep? opened s with
      | none => false
      | some opened => tokenizesFrom opened rest
termination_by cs.length
decreasing_by exact Nat.lt_of_lt_of_le (step?_shorter _step) (length_skipTrivia_le cs)

/-- The text without a byte order mark at its front. -/
def withoutMark : List Char → List Char
  | '\ufeff' :: cs => cs
  | cs => cs

/-- Whether a text falls into tokens. -/
def tokenizes (source : String) : Bool :=
  tokenizesFrom [] (withoutMark source.toList)

end Lexical
end ClusterCodec

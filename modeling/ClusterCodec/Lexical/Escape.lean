import ClusterCodec.Text.Numeral
import ClusterCodec.Text.Scan

/-!
# Escape — backslash sequences inside literals

- `LiteralKind`: texts, byte strings and null-terminated texts, and the characters that each admits.
- `afterCodePoint?`: a code point in braces.
- `afterEscape?`: what may follow a backslash in a character or byte.
- `afterStringEscape?`: the same in a string, where a line break and the blanks after it may follow.
-/

namespace ClusterCodec
namespace Lexical

open Text

inductive LiteralKind where
  | text
  | bytes
  | nullTerminated
  deriving Repr, DecidableEq

/-- The characters that may stand for themselves. -/
def LiteralKind.admits (kind : LiteralKind) (c : Char) : Bool :=
  match kind with
  | text => true
  | bytes => c.toNat < 128
  | nullTerminated => c != '\x00'

/-- The digits of a code point and the closing brace. At most six digits stand there, and
underscores after the first one. -/
def readCodePoint (value count : Nat) : List Char → Option (Nat × List Char)
  | [] => none
  | c :: cs =>
    match Numeral.digitValue? 16 c with
    | some digit => if count = 6 then none else readCodePoint (value * 16 + digit) (count + 1) cs
    | none =>
      if count = 0 then none
      else if c = '_' then readCodePoint value count cs
      else if c = '\x7d' ∧ value.isValidChar then some (value, cs)
      else none

def codePoint? : List Char → Option (Nat × List Char)
  | '\x7b' :: cs => readCodePoint 0 0 cs
  | _ => none

/-- Whether two hexadecimal digits denote a value that the literal may hold. -/
def LiteralKind.admitsPair (kind : LiteralKind) (first second : Char) : Bool :=
  match Numeral.digitValue? 16 first, Numeral.digitValue? 16 second with
  | some high, some low =>
    match kind with
    | text => high < 8
    | bytes => true
    | nullTerminated => high != 0 || low != 0
  | _, _ => false

/-- The end of an escape from after its backslash. -/
def afterEscape? (kind : LiteralKind) : List Char → Option (List Char)
  | 'x' :: first :: second :: cs => if kind.admitsPair first second then some cs else none
  | 'u' :: cs =>
    if kind = .bytes then none
    else (codePoint? cs).bind fun (value, rest) =>
      if kind = .nullTerminated ∧ value = 0 then none else some rest
  | '0' :: cs => if kind = .nullTerminated then none else some cs
  | c :: cs => if c ∈ ['n', 'r', 't', '\\', '\x27', '\x22'] then some cs else none
  | [] => none

/-- Passes the blanks at the start of a continued line, which must not end the text. -/
def afterContinuation? : List Char → Option (List Char)
  | '\r' :: '\n' :: cs => afterContinuation? cs
  | '\r' :: _ => none
  | c :: cs => if c ∈ [' ', '\t', '\n'] then afterContinuation? cs else some (c :: cs)
  | [] => none

/-- The end of an escape in a string, or the next character of a continued string. -/
def afterStringEscape? (kind : LiteralKind) : List Char → Option (List Char)
  | '\n' :: cs => afterContinuation? cs
  | '\r' :: '\n' :: cs => afterContinuation? cs
  | cs => afterEscape? kind cs

/-! ## What remains is shorter -/

theorem readCodePoint_shorter {value count result : Nat} {cs rest : List Char}
    (h : readCodePoint value count cs = some (result, rest)) : rest.length < cs.length := by
  fun_induction readCodePoint value count cs with
  | case1 => simp at h
  | case2 => simp at h
  | case3 value count c cs digit hd hc ih => exact Nat.lt_succ_of_lt (ih h)
  | case4 => simp at h
  | case5 value count cs hd hc ih => exact Nat.lt_succ_of_lt (ih h)
  | case6 value count c cs hd hc hu hv =>
    simp only [Option.some.injEq, Prod.mk.injEq] at h
    obtain ⟨-, rfl⟩ := h
    exact Nat.lt_succ_self _
  | case7 => simp at h

theorem codePoint?_shorter {value : Nat} {cs rest : List Char}
    (h : codePoint? cs = some (value, rest)) : rest.length < cs.length := by
  unfold codePoint? at h
  split at h
  · exact Nat.lt_succ_of_lt (readCodePoint_shorter h)
  · simp at h

theorem afterEscape?_consumes (kind : LiteralKind) : Consumes (afterEscape? kind) := by
  intro cs rest h
  unfold afterEscape? at h
  split at h
  · split at h
    · simp only [Option.some.injEq] at h
      subst h
      simp only [List.length_cons]
      omega
    · simp at h
  · split at h
    · simp at h
    · obtain ⟨⟨value, after⟩, hc, hr⟩ := Option.bind_eq_some_iff.1 h
      simp only at hr
      split at hr
      · simp at hr
      · simp only [Option.some.injEq] at hr
        subst hr
        exact Nat.lt_succ_of_lt (codePoint?_shorter hc)
  · split at h
    · simp at h
    · simp only [Option.some.injEq] at h
      subst h
      simp
  · split at h
    · simp only [Option.some.injEq] at h
      subst h
      simp
    · simp at h
  · simp at h

theorem length_afterContinuation?_le {cs rest : List Char} (h : afterContinuation? cs = some rest) :
    rest.length ≤ cs.length := by
  fun_induction afterContinuation? cs with
  | case1 cs ih => have := ih h; simp only [List.length_cons]; omega
  | case2 => simp at h
  | case3 c cs _ _ hc ih => have := ih h; simp only [List.length_cons]; omega
  | case4 c cs _ _ hc =>
    simp only [Option.some.injEq] at h
    subst h
    exact Nat.le_refl _
  | case5 => simp at h

theorem afterStringEscape?_consumes (kind : LiteralKind) : Consumes (afterStringEscape? kind) := by
  intro cs rest h
  unfold afterStringEscape? at h
  split at h
  · exact Nat.lt_succ_of_le (length_afterContinuation?_le h)
  · have := length_afterContinuation?_le h
    simp only [List.length_cons]
    omega
  · exact afterEscape?_consumes kind h

end Lexical
end ClusterCodec

import ClusterCodec.Lexical.Escape
import ClusterCodec.Lexical.Word

/-!
# TextLiteral — strings, raw strings, characters and bytes

- `afterString?`, `afterRawString?`, `afterQuotedChar?`: the end of a literal, from after its opening.
- `afterTextLiteral?`: a literal with its opening.

Inside a string a carriage return stands before a line feed only.
-/

namespace ClusterCodec
namespace Lexical

open Text

/-- The end of a string with escapes, from inside it. -/
def afterString? (kind : LiteralKind) (cs : List Char) : Option (List Char) :=
  match cs with
  | [] => none
  | '\x22' :: rest => some (afterSuffix rest)
  | '\r' :: '\n' :: rest => afterString? kind rest
  | '\r' :: _ => none
  -- A continued line leaves its first character to be read.
  | '\\' :: rest =>
    match _escape : afterStringEscape? kind rest with
    | some after => afterString? kind after
    | none => none
  | c :: rest => if kind.admits c then afterString? kind rest else none
termination_by cs.length
decreasing_by
  · simp only [List.length_cons]; omega
  · exact Nat.lt_succ_of_lt (afterStringEscape?_consumes kind _escape)
  · exact Nat.lt_succ_self _

/-- The end of a raw string, from inside it; `signs` number signs follow the closing quote. -/
def afterRawBody? (kind : LiteralKind) (signs : Nat) : List Char → Option (List Char)
  | [] => none
  | '\r' :: '\n' :: cs => afterRawBody? kind signs cs
  | '\r' :: _ => none
  | c :: cs =>
    if c = '\x22' ∧ (List.replicate signs '#').isPrefixOf cs then some (afterSuffix (cs.drop signs))
    else if kind.admits c then afterRawBody? kind signs cs
    else none

/-- At most 255 number signs, a quote, the body of a raw string and its end. -/
def afterRawString? (kind : LiteralKind) (cs : List Char) : Option (List Char) :=
  let signs := (cs.takeWhile (· == '#')).length
  match cs.dropWhile (· == '#') with
  | '\x22' :: body => if signs ≤ 255 then afterRawBody? kind signs body else none
  | _ => none

/-- A character or byte and the closing quote, from after the opening one. -/
def afterQuotedChar? (kind : LiteralKind) (cs : List Char) : Option (List Char) :=
  let inside := match cs with
    | '\\' :: rest => afterEscape? kind rest
    | c :: rest => if kind.admits c then some rest else none
    | [] => none
  match inside with
  | some ('\x27' :: rest) => some (afterSuffix rest)
  | _ => none

def afterTextLiteral? : List Char → Option (List Char)
  | '\x22' :: cs => afterString? .text cs
  | 'r' :: cs => afterRawString? .text cs
  | 'b' :: '\x22' :: cs => afterString? .bytes cs
  | 'b' :: 'r' :: cs => afterRawString? .bytes cs
  | 'b' :: '\x27' :: cs => afterQuotedChar? .bytes cs
  | 'c' :: '\x22' :: cs => afterString? .nullTerminated cs
  | 'c' :: 'r' :: cs => afterRawString? .nullTerminated cs
  | '\x27' :: cs => afterQuotedChar? .text cs
  | _ => none

/-! ## What remains is shorter -/

theorem afterString?_consumes (kind : LiteralKind) : Consumes (afterString? kind) := by
  intro cs rest h
  fun_induction afterString? kind cs with
  | case1 => simp at h
  | case2 cs =>
    simp only [Option.some.injEq] at h
    subst h
    exact Nat.lt_succ_of_le (length_afterSuffix_le _)
  | case3 cs ih => have := ih h; simp only [List.length_cons]; omega
  | case4 => simp at h
  | case5 cs after escape ih =>
    have := ih h
    have := afterStringEscape?_consumes kind escape
    simp only [List.length_cons]
    omega
  | case6 => simp at h
  | case7 c cs _ _ _ _ _ ih => exact Nat.lt_succ_of_lt (ih h)
  | case8 => simp at h

theorem afterRawBody?_consumes (kind : LiteralKind) (signs : Nat) :
    Consumes (afterRawBody? kind signs) := by
  intro cs rest h
  fun_induction afterRawBody? kind signs cs with
  | case1 => simp at h
  | case2 cs ih => have := ih h; simp only [List.length_cons]; omega
  | case3 => simp at h
  | case4 c cs _ _ _ =>
    simp only [Option.some.injEq] at h
    subst h
    have := length_afterSuffix_le (cs.drop signs)
    simp only [List.length_drop] at this
    simp only [List.length_cons]
    omega
  | case5 c cs _ _ _ _ ih => exact Nat.lt_succ_of_lt (ih h)
  | case6 => simp at h

theorem afterRawString?_consumes (kind : LiteralKind) : Consumes (afterRawString? kind) := by
  intro cs rest h
  unfold afterRawString? at h
  simp only at h
  have le := length_dropWhile_le (· == '#') cs
  split at h
  · next body heq =>
    split at h
    · have := afterRawBody?_consumes kind _ h
      rw [heq, List.length_cons] at le
      omega
    · simp at h
  · simp at h

theorem afterQuotedChar?_consumes (kind : LiteralKind) : Consumes (afterQuotedChar? kind) := by
  intro cs rest h
  unfold afterQuotedChar? at h
  simp only at h
  split at h
  · next after heq =>
    simp only [Option.some.injEq] at h
    subst h
    have suffix := length_afterSuffix_le after
    have inside : after.length < cs.length := by
      split at heq
      · have := afterEscape?_consumes kind heq
        simp only [List.length_cons] at this ⊢
        omega
      · split at heq
        · simp only [Option.some.injEq] at heq
          subst heq
          simp only [List.length_cons]
          omega
        · simp at heq
      · simp at heq
    omega
  · simp at h

theorem afterTextLiteral?_consumes : Consumes afterTextLiteral? := by
  intro cs rest h
  unfold afterTextLiteral? at h
  split at h
  · exact Nat.lt_succ_of_lt (afterString?_consumes _ h)
  · exact Nat.lt_succ_of_lt (afterRawString?_consumes _ h)
  · have := afterString?_consumes _ h; simp only [List.length_cons]; omega
  · have := afterRawString?_consumes _ h; simp only [List.length_cons]; omega
  · have := afterQuotedChar?_consumes _ h; simp only [List.length_cons]; omega
  · have := afterString?_consumes _ h; simp only [List.length_cons]; omega
  · have := afterRawString?_consumes _ h; simp only [List.length_cons]; omega
  · exact Nat.lt_succ_of_lt (afterQuotedChar?_consumes _ h)
  · simp at h

end Lexical
end ClusterCodec

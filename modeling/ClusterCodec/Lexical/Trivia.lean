import ClusterCodec.Text.Blank
import ClusterCodec.Text.Scan

/-!
# Trivia — blanks, comments and documentation

- `isGap`: the blanks between tokens.
- `afterTrivium?`, `skipTrivia`: a blank or a comment; all of them at the front of a text.
- `afterDoc?`: a documentation comment, in which a carriage return stands before a line feed only.
-/

namespace ClusterCodec
namespace Lexical

open Text

/-- Blanks and the two marks of writing direction. -/
def isGap (c : Char) : Bool :=
  isBlank c || c.toNat == 0x200E || c.toNat == 0x200F

def afterLine (cs : List Char) : List Char :=
  cs.dropWhile (· != '\n')

/-- The end of a block comment, from inside it; `depth` counts the comments opened in it. -/
def afterBlock? (depth : Nat) : List Char → Option (List Char)
  | '/' :: '*' :: cs => afterBlock? (depth + 1) cs
  | '*' :: '/' :: cs =>
    match depth with
    | 0 => some cs
    | outer + 1 => afterBlock? outer cs
  | _ :: cs => afterBlock? depth cs
  | [] => none

/-- Whether what follows two slashes makes the line documentation. -/
def isDocLine : List Char → Bool
  | '!' :: _ => true
  | '/' :: '/' :: _ => false
  | '/' :: _ => true
  | _ => false

/-- Whether what follows a slash and a star makes the block documentation. -/
def isDocBlock : List Char → Bool
  | '!' :: _ => true
  | '*' :: '*' :: _ => false
  | '*' :: '/' :: _ => false
  | '*' :: _ => true
  | _ => false

/-- A blank or a comment that is no documentation. -/
def afterTrivium? : List Char → Option (List Char)
  | '/' :: '/' :: cs => if isDocLine cs then none else some (afterLine cs)
  | '/' :: '*' :: cs => if isDocBlock cs then none else afterBlock? 0 cs
  | c :: cs => if isGap c then some cs else none
  | [] => none

/-! ## Documentation -/

/-- Every carriage return stands before a line feed. -/
def returnsPaired : List Char → Bool
  | '\r' :: '\n' :: cs => returnsPaired cs
  | '\r' :: _ => false
  | _ :: cs => returnsPaired cs
  | [] => true

/-- The text of a line, without the carriage return of its line break. -/
def lineText (cs : List Char) : List Char :=
  let line := cs.takeWhile (· != '\n')
  if line.length < cs.length ∧ line.getLast? = some '\r' then line.dropLast else line

/-- The text of a block, of which the end and what follows are given. -/
def blockText (cs rest : List Char) : List Char :=
  cs.take (cs.length - rest.length - 2)

/-- A documentation comment. -/
def afterDoc? : List Char → Option (List Char)
  | '/' :: '/' :: cs =>
    if isDocLine cs && returnsPaired (lineText (cs.drop 1)) then some (afterLine cs) else none
  | '/' :: '*' :: cs =>
    if isDocBlock cs then (afterBlock? 0 cs).filter fun rest => returnsPaired (blockText cs rest)
    else none
  | _ => none

/-! ## What remains is shorter -/

theorem afterBlock?_consumes (depth : Nat) : Consumes (afterBlock? depth) := by
  intro cs rest h
  fun_induction afterBlock? depth cs with
  | case1 depth cs ih => have := ih h; simp only [List.length_cons]; omega
  | case2 cs => simp only [Option.some.injEq] at h; subst h; simp only [List.length_cons]; omega
  | case3 cs outer ih => have := ih h; simp only [List.length_cons]; omega
  | case4 depth c cs _ _ ih => have := ih h; simp only [List.length_cons]; omega
  | case5 => simp at h

theorem length_afterLine_le (cs : List Char) : (afterLine cs).length ≤ cs.length :=
  length_dropWhile_le _ _

theorem afterTrivium?_consumes : Consumes afterTrivium? := by
  intro cs rest h
  unfold afterTrivium? at h
  split at h
  · next cs =>
    have := length_afterLine_le cs
    split at h
    · simp at h
    · simp only [Option.some.injEq] at h
      subst h
      simp only [List.length_cons]
      omega
  · next cs =>
    split at h
    · simp at h
    · have := afterBlock?_consumes 0 h
      simp only [List.length_cons]
      omega
  · split at h
    · simp only [Option.some.injEq] at h
      subst h
      simp
    · simp at h
  · simp at h

theorem afterDoc?_consumes : Consumes afterDoc? := by
  intro cs rest h
  unfold afterDoc? at h
  split at h
  · next cs =>
    have := length_afterLine_le cs
    split at h
    · simp only [Option.some.injEq] at h
      subst h
      simp only [List.length_cons]
      omega
    · simp at h
  · next cs =>
    split at h
    · have := afterBlock?_consumes 0 (Option.filter_eq_some_iff.1 h).1
      simp only [List.length_cons]
      omega
    · simp at h
  · simp at h

/-- Passes the blanks and comments at the front of a text. -/
def skipTrivia (cs : List Char) : List Char :=
  match _found : afterTrivium? cs with
  | none => cs
  | some rest => skipTrivia rest
termination_by cs.length
decreasing_by exact afterTrivium?_consumes _found

theorem length_skipTrivia_le (cs : List Char) : (skipTrivia cs).length ≤ cs.length := by
  fun_induction skipTrivia cs with
  | case1 => exact Nat.le_refl _
  | case2 cs rest h ih => exact Nat.le_trans ih (Nat.le_of_lt (afterTrivium?_consumes h))

end Lexical
end ClusterCodec

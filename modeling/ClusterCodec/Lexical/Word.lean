import ClusterCodec.Text.Scan
import ClusterCodec.Text.WordChar

/-!
# Word — identifiers and punctuation

- `afterWord?`: a letter or underscore and what continues it.
- `afterIdentifier?`: a word, or a raw one after `r#`; not what looks like the start of a literal.
- `afterPunctuation?`: one mark; a quote mark must begin a lifetime.
-/

namespace ClusterCodec
namespace Lexical

open Text

def afterWord? : List Char → Option (List Char)
  | c :: cs => if WordChar.startsWord c then some (cs.dropWhile WordChar.continuesWord) else none
  | [] => none

/-- The suffix of a literal, if it has one. -/
def afterSuffix (cs : List Char) : List Char :=
  (afterWord? cs).getD cs

/-- The words that have no raw form. -/
def neverRaw : List String := ["_", "super", "self", "Self", "crate"]

/-- A word that is raw after `r#`. -/
def afterAnyWord? : List Char → Option (List Char)
  | 'r' :: '#' :: cs =>
    (afterWord? cs).filter fun rest => String.ofList (cs.take (cs.length - rest.length)) ∉ neverRaw
  | cs => afterWord? cs

/-- The beginnings of literals that no identifier has. -/
def literalStarts : List String :=
  ["r\"", "r#\"", "r##", "b\"", "b\x27", "br\"", "br#", "c\"", "cr\"", "cr#"]

def startsLiteral (cs : List Char) : Bool :=
  literalStarts.any fun start => start.toList.isPrefixOf cs

def afterIdentifier? (cs : List Char) : Option (List Char) :=
  if !startsLiteral cs then afterAnyWord? cs else none

/-! ## Punctuation -/

def isMark (c : Char) : Bool :=
  c ∈ "~!@#$%^&*-=+|;:,<.>/?".toList

/-- Whether a quote mark before the text makes a lifetime: a word follows, and after it neither a
quote mark nor, unless the word is raw, a number sign. -/
def beginsLifetime (cs : List Char) : Bool :=
  match afterAnyWord? cs with
  | none => false
  | some ('\x27' :: _) => false
  | some ('#' :: _) => "r#".toList.isPrefixOf cs
  | some _ => true

/-- One mark. A slash that begins a comment is none. -/
def afterPunctuation? : List Char → Option (List Char)
  | '/' :: '/' :: _ => none
  | '/' :: '*' :: _ => none
  | '\x27' :: cs => if beginsLifetime cs then some cs else none
  | c :: cs => if isMark c then some cs else none
  | [] => none

/-! ## What remains is shorter -/

theorem afterWord?_consumes : Consumes afterWord? := by
  intro cs rest h
  unfold afterWord? at h
  split at h
  · next c cs =>
    split at h
    · simp only [Option.some.injEq] at h
      subst h
      exact Nat.lt_succ_of_le (length_dropWhile_le _ _)
    · simp at h
  · simp at h

theorem length_afterSuffix_le (cs : List Char) : (afterSuffix cs).length ≤ cs.length := by
  unfold afterSuffix
  cases h : afterWord? cs with
  | none => exact Nat.le_refl _
  | some rest => exact Nat.le_of_lt (afterWord?_consumes h)

theorem afterAnyWord?_consumes : Consumes afterAnyWord? := by
  intro cs rest h
  unfold afterAnyWord? at h
  split at h
  · have := afterWord?_consumes (Option.filter_eq_some_iff.1 h).1
    simp only [List.length_cons]
    omega
  · exact afterWord?_consumes h

theorem afterIdentifier?_consumes : Consumes afterIdentifier? :=
  guarded_consumes (fun cs => !startsLiteral cs) afterAnyWord?_consumes

theorem afterPunctuation?_consumes : Consumes afterPunctuation? := by
  intro cs rest h
  unfold afterPunctuation? at h
  split at h
  · simp at h
  · simp at h
  all_goals first
    | (split at h
       · simp only [Option.some.injEq] at h
         subst h
         simp
       · simp at h)
    | simp at h

end Lexical
end ClusterCodec

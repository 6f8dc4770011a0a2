/-!
# Blank — white space, trimming and words

- `isBlank`: the Unicode property *White_Space*.
- `trim`: a text without the blanks at its two ends; `infix_trimBy`, `not_drop_of_head?_trimBy`,
  `not_drop_of_getLast?_trimBy` and `trimBy_eq_self` say what is left.
- `runsBetween`: the maximal runs of characters outside a class.
- `words`: the maximal runs of characters that are not blank.
- `oneLine`: the words of a text joined by single spaces.
-/

namespace ClusterCodec
namespace Text

/-- The Unicode property *White_Space*. -/
def isBlank (c : Char) : Bool :=
  let n := c.toNat
  (0x09 ≤ n && n ≤ 0x0D) || n == 0x20 || n == 0x85 || n == 0xA0 || n == 0x1680 ||
    (0x2000 ≤ n && n ≤ 0x200A) || n == 0x2028 || n == 0x2029 || n == 0x202F || n == 0x205F ||
    n == 0x3000

/-- Drops the members of a class from both ends. -/
def trimBy (drop : Char → Bool) (cs : List Char) : List Char :=
  ((cs.dropWhile drop).reverse.dropWhile drop).reverse

def trim (s : String) : String :=
  String.ofList (trimBy isBlank s.toList)

section Trim

variable {drop : Char → Bool} {cs : List Char} {c : Char}

theorem prefix_trimBy (drop : Char → Bool) (cs : List Char) :
    trimBy drop cs <+: cs.dropWhile drop := by
  have back : ((cs.dropWhile drop).reverse.dropWhile drop).reverse <+:
      (cs.dropWhile drop).reverse.reverse :=
    List.reverse_prefix.2 (List.dropWhile_suffix drop)
  rwa [List.reverse_reverse] at back

theorem infix_trimBy (drop : Char → Bool) (cs : List Char) : trimBy drop cs <:+: cs :=
  (prefix_trimBy drop cs).isInfix.trans (List.dropWhile_suffix drop).isInfix

theorem mem_of_mem_trimBy (h : c ∈ trimBy drop cs) : c ∈ cs :=
  (infix_trimBy drop cs).subset h

theorem not_drop_of_head?_trimBy (h : (trimBy drop cs).head? = some c) : drop c = false := by
  have front := List.head?_dropWhile_not drop cs
  obtain ⟨rest, split⟩ := prefix_trimBy drop cs
  rw [← split, List.head?_append, h] at front
  exact front

theorem not_drop_of_getLast?_trimBy (h : (trimBy drop cs).getLast? = some c) : drop c = false := by
  have back := List.head?_dropWhile_not drop (cs.dropWhile drop).reverse
  rw [trimBy, List.getLast?_reverse] at h
  rw [h] at back
  exact back

/-- A text with nothing to drop at its two ends stays as it is. -/
theorem trimBy_eq_self (first : ∀ c, cs.head? = some c → drop c = false)
    (last : ∀ c, cs.getLast? = some c → drop c = false) : trimBy drop cs = cs := by
  have same {ds : List Char} (first : ∀ c, ds.head? = some c → drop c = false) :
      ds.dropWhile drop = ds := by
    cases ds with
    | nil => rfl
    | cons c ds => exact List.dropWhile_cons_of_neg (by simp [first c rfl])
  have reversed : cs.reverse.dropWhile drop = cs.reverse := by
    apply same
    intro c found
    apply last
    rwa [List.head?_reverse] at found
  rw [trimBy, same first, reversed, List.reverse_reverse]

end Trim

/-- The maximal runs of characters outside `separator`. -/
def runsBetween (separator : Char → Bool) : List Char → List (List Char)
  | [] => []
  | c :: cs =>
    if separator c then runsBetween separator cs
    else match cs, runsBetween separator cs with
      | d :: _, run :: runs => if separator d then [c] :: run :: runs else (c :: run) :: runs
      | _, runs => [c] :: runs

section Runs

variable {separator : Char → Bool}

theorem runsBetween_cons_of_word {c d : Char} {cs run : List Char} {runs : List (List Char)}
    (hc : separator c = false) (rest : runsBetween separator (d :: cs) = run :: runs) :
    runsBetween separator (c :: d :: cs) =
      if separator d then [c] :: run :: runs else (c :: run) :: runs := by
  rw [runsBetween.eq_def]
  simp only [hc, rest, Bool.false_eq_true, if_false]

theorem runsBetween_word {word : List Char} (nonempty : word ≠ [])
    (inWord : ∀ c ∈ word, separator c = false) : runsBetween separator word = [word] := by
  induction word with
  | nil => exact (nonempty rfl).elim
  | cons c cs ih =>
      have hc : separator c = false := inWord c List.mem_cons_self
      cases cs with
      | nil =>
          simp [runsBetween, hc]
      | cons d ds =>
          have hd : separator d = false := inWord d (List.mem_cons_of_mem c List.mem_cons_self)
          have rest := ih (List.cons_ne_nil d ds) fun x hx => inWord x (.tail _ hx)
          rw [runsBetween_cons_of_word hc rest, hd]
          rfl

/-- A word at the end of a text ends its last run. -/
theorem exists_runsBetween_append {word : List Char} (nonempty : word ≠ [])
    (inWord : ∀ c ∈ word, separator c = false) (front : List Char) :
    ∃ runs run, runsBetween separator (front ++ word) = runs ++ [run ++ word] := by
  induction front with
  | nil => exact ⟨[], [], runsBetween_word nonempty inWord⟩
  | cons c front ih =>
      rcases ih with ⟨runs, run, rest⟩
      cases hc : separator c with
      | true =>
          refine ⟨runs, run, ?_⟩
          rw [List.cons_append, runsBetween.eq_def, ← rest]
          simp only [hc, if_true]
      | false =>
          rcases List.exists_cons_of_ne_nil (List.append_ne_nil_of_right_ne_nil front nonempty)
            with ⟨d, ds, hcs⟩
          rw [List.cons_append, hcs]
          rw [hcs] at rest
          -- The character joins the first run, which may be the last one too, or is its own.
          cases runs with
          | nil =>
              rw [runsBetween_cons_of_word hc rest]
              split
              · exact ⟨[[c]], run, rfl⟩
              · exact ⟨[], c :: run, rfl⟩
          | cons first runs =>
              rw [runsBetween_cons_of_word hc rest]
              split
              · exact ⟨[c] :: first :: runs, run, rfl⟩
              · exact ⟨(c :: first) :: runs, run, rfl⟩

end Runs

def words (s : String) : List String :=
  (runsBetween isBlank s.toList).map String.ofList

/-- A text on one line: its words, joined by single spaces. -/
def oneLine (s : String) : String :=
  " ".intercalate (words s)

end Text
end ClusterCodec

import ClusterCodec.Proofs.CodeLines
import Mathlib.Data.List.Forall2

/-!
# LineMoves — indentation as an action on the lines of a text

Nested pieces of code are indented once for each level that encloses them.  Here indentation moves the
lines of a text one by one, so what several steps do together depends on their sum only.

- `TextLines`, `textLines_iff`: the lines of a text, said without the function that cuts it.
- `indentLine_indentLine`: levels add up on a line.
- `lines_indent`, `lines_indentTail`: an indented text consists of the indented lines.
- `MovesLine`: a blank line stays, any other line gets spaces in front.
- `indentation_moves_lines`: levels add up on a text, whole lines are indented on their own, and every
  line keeps what follows its leading spaces.
-/

namespace ClusterCodec
namespace Text

variable {line : List Char} {ls : List (List Char)} {level : Nat}

/-! ## The lines of a text -/

/-- Every line ends with its only line break, but the last one may have none. No line is empty. -/
inductive AreLines : List (List Char) → Prop where
  | nil : AreLines []
  | last {line : List Char} : '\n' ∉ line → line ≠ [] → AreLines [line]
  | cons {line : List Char} {rest : List (List Char)} :
      '\n' ∉ line → AreLines rest → AreLines ((line ++ ['\n']) :: rest)

theorem areLines_lines (cs : List Char) : AreLines (lines cs) := by
  -- A cut is made behind the first line break, or not at all; an empty rest is no line.
  fun_induction lines cs with
  | case1 cs none empty =>
      exact .nil
  | case2 cs none nonempty =>
      have unbroken : '\n' ∉ cs := by
        intro inside
        simpa using List.dropWhile_eq_nil_iff.1 none '\n' inside
      exact .last unbroken (by simpa using nonempty)
  | case3 cs lineBreak rest found ih =>
      have unbroken : '\n' ∉ cs.takeWhile (· != '\n') := by
        intro inside
        simpa using List.mem_takeWhile_imp inside
      obtain ⟨rfl, -⟩ := eq_append_break found
      exact .cons unbroken ih

theorem flatten_lines (cs : List Char) : (lines cs).flatten = cs := by
  fun_induction lines cs with
  | case1 cs none empty =>
      simpa using (List.isEmpty_iff.1 empty).symm
  | case2 cs none nonempty =>
      simp
  | case3 cs lineBreak rest found ih =>
      obtain ⟨rfl, split⟩ := eq_append_break found
      calc
        ((cs.takeWhile (· != '\n') ++ ['\n']) :: lines rest).flatten =
            cs.takeWhile (· != '\n') ++ '\n' :: rest := by simp [ih]
        _ = cs := split.symm

theorem lines_flatten (cut : AreLines ls) : lines ls.flatten = ls := by
  -- The first cut in the joined text is at the end of the first line, as this has no other break.
  induction cut with
  | nil =>
      exact lines_nil
  | last unbroken nonempty =>
      simpa using lines_unbroken unbroken nonempty
  | @cons line rest unbroken cut ih =>
      have first : lines (line ++ '\n' :: rest.flatten) = (line ++ ['\n']) :: lines rest.flatten :=
        lines_append_break unbroken
      simpa [ih] using first

/-- The text consists of the lines. -/
structure TextLines (text : String) (ls : List (List Char)) : Prop where
  areLines : AreLines ls
  flatten : ls.flatten = text.toList

/-- There is one way to cut a text into lines. -/
theorem textLines_iff {text : String} : TextLines text ls ↔ lines text.toList = ls := by
  constructor
  · rintro ⟨cut, flatten⟩
    rw [← flatten]
    exact lines_flatten cut
  · rintro rfl
    exact ⟨areLines_lines _, flatten_lines _⟩

/-! ## One line -/

theorem isBlankLine_spaces (count : Nat) (line : List Char) :
    isBlankLine (List.replicate count ' ' ++ line) = isBlankLine line := by
  have spaces : (List.replicate count ' ').all isBlank = true := by
    rw [List.all_eq_true]
    intro c hc
    rw [List.eq_of_mem_replicate hc]
    decide
  simp only [isBlankLine, List.all_append, spaces, Bool.true_and]

/-- The spaces of two steps stand side by side. -/
theorem indentLine_indentLine (a b : Nat) (line : List Char) :
    indentLine b (indentLine a line) = indentLine (a + b) line := by
  cases blank : isBlankLine line with
  | true =>
      simp [indentLine, blank]
  | false =>
      -- Spaces in front do not make the line blank, so the second step moves it too.
      have spaces : 4 * b + 4 * a = 4 * (a + b) := by omega
      simp [indentLine, blank, isBlankLine_spaces, ← List.append_assoc, spaces]

/-- What stands before the line break of a line is indented, and the break stays. -/
theorem indentLine_append_break (level : Nat) (line : List Char) :
    indentLine level (line ++ ['\n']) = indentLine level line ++ ['\n'] := by
  have same : isBlankLine (line ++ ['\n']) = isBlankLine line := by
    have blank : isBlank '\n' = true := by decide
    simp [isBlankLine, blank]
  cases blank : isBlankLine line <;> simp [indentLine, same, blank]

theorem break_notMem_indentLine (unbroken : '\n' ∉ line) : '\n' ∉ indentLine level line := by
  unfold indentLine
  split
  · exact unbroken
  · simpa using unbroken

theorem indentLine_ne_nil (nonempty : line ≠ []) : indentLine level line ≠ [] := by
  unfold indentLine
  split
  · exact nonempty
  · simpa using fun _ => nonempty

/-! ## All lines -/

theorem AreLines.map_indentLine (cut : AreLines ls) (level : Nat) :
    AreLines (ls.map (indentLine level)) := by
  induction cut with
  | nil =>
      exact .nil
  | last unbroken nonempty =>
      exact .last (break_notMem_indentLine unbroken) (indentLine_ne_nil nonempty)
  | cons unbroken cut ih =>
      rw [List.map_cons, indentLine_append_break]
      exact .cons (break_notMem_indentLine unbroken) ih

/-- The lines of a text, of which the first one stays. -/
def indentLater (level : Nat) : List (List Char) → List (List Char)
  | [] => []
  | first :: rest => first :: rest.map (indentLine level)

theorem AreLines.indentLater (cut : AreLines ls) (level : Nat) :
    AreLines (indentLater level ls) := by
  cases cut with
  | nil =>
      exact .nil
  | last unbroken nonempty =>
      exact .last unbroken nonempty
  | cons unbroken cut =>
      exact .cons unbroken (cut.map_indentLine level)

theorem toList_indentTail (level : Nat) (text : String) :
    (indentTail level text).toList = (indentLater level (lines text.toList)).flatten := by
  unfold indentTail
  split
  · next none =>
      have empty := flatten_lines text.toList
      simpa [none, indentLater] using empty.symm
  · next first rest some =>
      simp [some, indentLater, List.flatMap_def]

/-- An indented text consists of the indented lines. -/
theorem lines_indent (level : Nat) (text : String) :
    lines (indent level text).toList = (lines text.toList).map (indentLine level) := by
  have cut := (areLines_lines text.toList).map_indentLine level
  simpa [indent, List.flatMap_def] using lines_flatten cut

theorem lines_indentTail (level : Nat) (text : String) :
    lines (indentTail level text).toList = indentLater level (lines text.toList) := by
  rw [toList_indentTail]
  exact lines_flatten ((areLines_lines text.toList).indentLater level)

theorem indent_indent (a b : Nat) (text : String) :
    indent b (indent a text) = indent (a + b) text := by
  calc
    indent b (indent a text) =
        String.ofList (((lines text.toList).map (indentLine a)).flatMap (indentLine b)) := by
          rw [indent, lines_indent]
    _ = String.ofList ((lines text.toList).flatMap fun line => indentLine b (indentLine a line)) := by
          rw [List.flatMap_map]
    _ = indent (a + b) text := by simp only [indentLine_indentLine, indent]

theorem indentLater_indentLater (a b : Nat) (ls : List (List Char)) :
    indentLater b (indentLater a ls) = indentLater (a + b) ls := by
  cases ls with
  | nil => rfl
  | cons first rest => simp [indentLater, Function.comp_def, indentLine_indentLine]

theorem indentTail_indentTail (a b : Nat) (text : String) :
    indentTail b (indentTail a text) = indentTail (a + b) text := by
  apply String.toList_inj.1
  calc
    (indentTail b (indentTail a text)).toList =
        (indentLater b (lines (indentTail a text).toList)).flatten := toList_indentTail _ _
    _ = (indentLater (a + b) (lines text.toList)).flatten := by
          rw [lines_indentTail, indentLater_indentLater]
    _ = (indentTail (a + b) text).toList := (toList_indentTail _ _).symm

/-- Behind whole lines a text is indented as on its own. -/
theorem indent_append {front : String} (whole : WholeLines front) (level : Nat) (back : String) :
    indent level (front ++ back) = indent level front ++ indent level back := by
  apply String.toList_inj.1
  simp [indent, lines_append whole.ends]

/-! ## What stays of a line -/

/-- What becomes of a line: it stays if it is blank, and otherwise gets four spaces a level in front.
So its leading spaces are all that can change. -/
structure MovesLine (level : Nat) (before after : List Char) : Prop where
  blank : (∀ c ∈ before, isBlank c = true) → after = before
  notBlank : (∃ c ∈ before, isBlank c = false) → after = List.replicate (4 * level) ' ' ++ before
  content : after.dropWhile (· == ' ') = before.dropWhile (· == ' ')

theorem movesLine_indentLine (level : Nat) (line : List Char) :
    MovesLine level line (indentLine level line) where
  blank := by
    intro blank
    have blankLine : isBlankLine line = true := List.all_eq_true.2 blank
    simp [indentLine, blankLine]
  notBlank := by
    rintro ⟨c, hc, visible⟩
    have solidLine : isBlankLine line = false :=
      List.all_eq_false.2 ⟨c, hc, by simp [visible]⟩
    simp [indentLine, solidLine]
  content := by
    unfold indentLine
    split
    · rfl
    · exact List.dropWhile_append_of_pos fun c hc => by simp [List.eq_of_mem_replicate hc]

theorem forall₂_movesLine (level : Nat) (ls : List (List Char)) :
    List.Forall₂ (MovesLine level) ls (ls.map (indentLine level)) := by
  induction ls with
  | nil => exact .nil
  | cons line ls ih => exact .cons (movesLine_indentLine level line) ih

/-- Levels add up, whole lines are indented on their own, and each line of the text is moved. If the
first line is exempt, it stays as it is. -/
theorem indentation_moves_lines (a b : Nat) (c d : String) :
    indent b (indent a c) = indent (a + b) c ∧
      indentTail b (indentTail a c) = indentTail (a + b) c ∧
      (WholeLines c → indent a (c ++ d) = indent a c ++ indent a d) ∧
      (∃ before after, TextLines c before ∧ TextLines (indent a c) after ∧
        after.length = before.length ∧ List.Forall₂ (MovesLine a) before after) ∧
      ∃ before after, TextLines c before ∧ TextLines (indentTail a c) after ∧
        after.length = before.length ∧ after.head? = before.head? ∧
          List.Forall₂ (MovesLine a) before.tail after.tail := by
  have here : TextLines c (lines c.toList) := textLines_iff.2 rfl
  have moved := forall₂_movesLine a (lines c.toList)
  refine ⟨indent_indent a b c, indentTail_indentTail a b c, fun whole => indent_append whole a d,
    ⟨_, _, here, textLines_iff.2 (lines_indent a c), moved.length_eq.symm, moved⟩,
    ⟨_, _, here, textLines_iff.2 (lines_indentTail a c), ?_⟩⟩
  cases lines c.toList with
  | nil =>
      exact ⟨rfl, rfl, .nil⟩
  | cons first rest =>
      exact ⟨by simp [indentLater], rfl, forall₂_movesLine a rest⟩

/-- The second line is blank without being empty, and the last one has no line break. -/
theorem indentation_moves_lines_match :
    WholeLines "match x \x7b\n" ∧
      indent 1 ("match x \x7b\n" ++ " \t\n  _ => y") =
        "    match x \x7b\n" ++ (" \t\n" ++ "      _ => y") ∧
      indentTail 2 (indentTail 1 "match x \x7b\n \t\n  _ => y") =
        "match x \x7b\n \t\n" ++ "              _ => y" := by
  have whole : WholeLines "match x \x7b\n" := .inr ⟨"match x \x7b", rfl⟩
  obtain ⟨-, -, append, -⟩ := indentation_moves_lines 1 0 "match x \x7b\n" " \t\n  _ => y"
  obtain ⟨-, tail, -⟩ := indentation_moves_lines 1 2 "match x \x7b\n \t\n  _ => y" ""
  refine ⟨whole, (append whole).trans ?_, tail.trans ?_⟩
  · decide +kernel
  · decide +kernel

end Text
end ClusterCodec

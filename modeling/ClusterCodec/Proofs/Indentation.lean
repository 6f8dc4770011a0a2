import ClusterCodec.Emit.Snippet
import Mathlib.Data.List.TakeWhile

/-!
# Indentation — lines that move to the right

- `eq_append_break`, `lines_append_break`: the first line of a text and the lines after it.
- `Solid`: a line with something on it.
- `indent_append_line`: a solid line in front of a text moves to the right on its own.
-/

namespace ClusterCodec
namespace Text

/-! ## Lines -/

section Lines

variable {line rest : List Char}

/-- What is cut off behind the first line begins with the line break. -/
theorem eq_append_break {cs : List Char} {lineBreak : Char}
    (found : cs.dropWhile (· != '\n') = lineBreak :: rest) :
    lineBreak = '\n' ∧ cs = cs.takeWhile (· != '\n') ++ '\n' :: rest := by
  have isBreak : lineBreak = '\n' := by
    have stops := List.head?_dropWhile_not (· != '\n') cs
    rw [found] at stops
    simpa using stops
  subst isBreak
  refine ⟨rfl, ?_⟩
  rw [← found, List.takeWhile_append_dropWhile]

/-- The first line of a text ends with the first line break. -/
theorem lines_append_break (unbroken : '\n' ∉ line) :
    lines (line ++ '\n' :: rest) = (line ++ ['\n']) :: lines rest := by
  have inLine : ∀ c ∈ line, (c != '\n') = true := by
    intro c hc
    exact bne_iff_ne.2 fun same => unbroken (same ▸ hc)
  have back : (line ++ '\n' :: rest).dropWhile (· != '\n') = '\n' :: rest := by
    rw [List.dropWhile_append_of_pos inLine]
    rfl
  have front : (line ++ '\n' :: rest).takeWhile (· != '\n') = line := by
    rw [List.takeWhile_append_of_pos inLine]
    simp
  rw [lines.eq_def]
  split
  · next none =>
      rw [back] at none
      cases none
  · next some =>
      rw [back] at some
      cases some
      rw [front]

theorem lines_unbroken (unbroken : '\n' ∉ line) (nonempty : line ≠ []) : lines line = [line] := by
  have none : line.dropWhile (· != '\n') = [] := by
    rw [List.dropWhile_eq_nil_iff]
    intro c hc
    exact bne_iff_ne.2 fun same => unbroken (same ▸ hc)
  rw [lines.eq_def]
  split
  · simp [nonempty]
  · next some =>
      rw [none] at some
      cases some

theorem lines_nil : lines [] = [] := by
  rw [lines.eq_def]
  rfl

end Lines

/-! ## Indented lines -/

/-- A line with something on it. -/
structure Solid (line : String) : Prop where
  unbroken : '\n' ∉ line.toList
  notBlank : ∃ c ∈ line.toList, isBlank c = false

/-- The blanks in front of a line at some level. -/
def margin (level : Nat) : String :=
  String.ofList (List.replicate (4 * level) ' ')

theorem isBlankLine_append_of_solid {line : String} (solid : Solid line) (back : List Char) :
    isBlankLine (line.toList ++ back) = false := by
  rcases solid.notBlank with ⟨c, hc, visible⟩
  rw [isBlankLine, List.all_eq_false]
  exact ⟨c, List.mem_append_left _ hc, by simp [visible]⟩

theorem indent_append_line {line : String} (solid : Solid line) (level : Nat) (rest : String) :
    indent level (line ++ "\n" ++ rest) = margin level ++ line ++ "\n" ++ indent level rest := by
  have text : (line ++ "\n" ++ rest).toList = line.toList ++ '\n' :: rest.toList := by
    simp
  rw [indent, text, lines_append_break solid.unbroken, List.flatMap_cons, indentLine,
    isBlankLine_append_of_solid solid]
  simp [margin, indent, String.ofList_append, String.append_assoc]

theorem indent_empty (level : Nat) : indent level "" = "" := by
  rw [indent, String.toList_empty, lines_nil]
  rfl

/-- A single line, with its line break. -/
theorem indent_line {line text : String} (solid : Solid line) (ends : text = line ++ "\n")
    (level : Nat) : indent level text = margin level ++ text := by
  have alone := indent_append_line solid level ""
  rwa [String.append_empty, indent_empty, String.append_empty, String.append_assoc, ← ends] at alone

/-- The front of a line, without a line break. -/
theorem indent_unbroken {line : String} (solid : Solid line) (level : Nat) :
    indent level line = margin level ++ line := by
  have nonempty : line.toList ≠ [] := by
    rcases solid.notBlank with ⟨c, hc, -⟩
    exact List.ne_nil_of_mem hc
  have notBlank : isBlankLine line.toList = false := by
    simpa using isBlankLine_append_of_solid solid []
  rw [indent, lines_unbroken solid.unbroken nonempty, List.flatMap_singleton, indentLine, notBlank]
  simp [margin, String.ofList_append]

end Text
end ClusterCodec

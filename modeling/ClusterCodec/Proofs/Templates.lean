import ClusterCodec.Proofs.Indentation
import ClusterCodec.Proofs.LexicalAcceptance

/-!
# Templates — source text with holes

- `Fits`: a text that is read from one mode to another and leaves the open brackets as they are.
- `Code`, `Atom`, `WordText`: texts between tokens, complete tokens and texts that end in a word.
- `Fits.append`, `Fits.join`, `Fits.intercalate`, `Code.indent`: ways to put such texts together.
- `Part`, `scan`, `Fits.of_parts`: a text is made of fixed parts and of texts that fit into holes;
  it fits if the fixed parts do, which is decided by reading them.
-/

namespace ClusterCodec
namespace Lexical

open Text LexState

/-- From the one mode the text is read to the other one, and the open brackets stay. -/
def Fits (first last : Mode) (text : String) : Prop :=
  ∀ opened, ∃ n, n.Refines last ∧ run ⟨first, opened⟩ text.toList = some ⟨n, opened⟩

/-- Tokens between tokens. -/
abbrev Code : String → Prop := Fits .ground .ground

/-- Tokens of which the last one is complete. -/
abbrev Atom : String → Prop := Fits .ground .complete

/-- Tokens of which the last one is a word. -/
abbrev WordText : String → Prop := Fits .ground .word

namespace Fits

variable {a b c : Mode} {x y : String}

theorem empty : Fits a a "" :=
  fun _ => ⟨a, .refl, rfl⟩

theorem weaken (fits : Fits a b x) (refines : b.Refines c) : Fits a c x := by
  intro opened
  rcases fits opened with ⟨n, first, run⟩
  exact ⟨n, first.trans refines, run⟩

theorem atom (fits : Fits a .ground x) : Fits a .complete x :=
  fits.weaken .ground

theorem atom_of_word (fits : Fits a .word x) : Fits a .complete x :=
  fits.weaken .word

theorem append (first : Fits a b x) (second : Fits b c y) : Fits a c (x ++ y) := by
  intro opened
  rcases first opened with ⟨n, refines, run⟩
  rcases second opened with ⟨m, refines', run'⟩
  rcases run_refines refines run' with ⟨k, refines'', run''⟩
  refine ⟨k, refines''.trans refines', ?_⟩
  rw [String.toList_append, run_append, run]
  exact run''

theorem join {texts : List String} (each : ∀ x ∈ texts, Fits a a x) :
    Fits a a (String.join texts) := by
  induction texts with
  | nil => exact empty
  | cons x texts ih =>
      rw [String.join_cons]
      exact (each x List.mem_cons_self).append (ih fun y hy => each y (List.mem_cons_of_mem x hy))

theorem intercalate {texts : List String} (each : ∀ x ∈ texts, Fits a b x)
    (between : Fits b a y) (refines : a.Refines b) : Fits a b (y.intercalate texts) := by
  induction texts with
  | nil =>
      rw [String.intercalate_nil]
      exact empty.weaken refines
  | cons x texts ih =>
      have first : Fits a b x := each x List.mem_cons_self
      cases texts with
      | nil =>
          rw [String.intercalate_singleton]
          exact first
      | cons x' texts =>
          rw [String.intercalate_cons_cons]
          exact (first.append between).append (ih fun z hz => each z (List.mem_cons_of_mem x hz))

section Lists

variable {α : Type} {items : List α} {f : α → String}

theorem join_map (each : ∀ i ∈ items, Fits a a (f i)) : Fits a a (String.join (items.map f)) := by
  refine join fun text listed => ?_
  rcases List.mem_map.1 listed with ⟨i, member, rfl⟩
  exact each i member

theorem intercalate_map (each : ∀ i ∈ items, Fits a b (f i)) (between : Fits b a y)
    (refines : a.Refines b) : Fits a b (y.intercalate (items.map f)) := by
  refine intercalate (fun text listed => ?_) between refines
  rcases List.mem_map.1 listed with ⟨i, member, rfl⟩
  exact each i member

end Lists

/-- A fixed text fits if it is read so with no bracket open. -/
theorem of_run (reads : run ⟨a, []⟩ x.toList = some ⟨b, []⟩) : Fits a b x := by
  intro opened
  exact ⟨b, .refl, run_within reads⟩

end Fits

/-! ## Indentation -/

theorem mode_of_break {s t : LexState} (step : s.step '\n' = some t) : t.mode = .ground := by
  rcases continues_or_ends step with ⟨mode, continued, rfl⟩ | ⟨-, -, begun⟩
  · rcases s with ⟨mode', opened⟩
    cases mode' with
    | comment =>
        cases continued
        rfl
    | _ => cases continued
  · cases begun
    rfl

theorem run_spaces (opened : List Bracket) (n : Nat) (text : List Char) :
    run ⟨.ground, opened⟩ (List.replicate n ' ' ++ text) = run ⟨.ground, opened⟩ text := by
  induction n with
  | zero => rfl
  | succ n ih => exact ih

theorem run_indentLine (opened : List Bracket) (level : Nat) (line : List Char) :
    run ⟨.ground, opened⟩ (indentLine level line) = run ⟨.ground, opened⟩ line := by
  rw [indentLine]
  split
  · rfl
  · exact run_spaces opened _ line

/-- No line begins inside a token, so each one may be moved to the right. -/
theorem run_indentedLines {opened : List Bracket} {t : LexState} {cs : List Char}
    (h : run ⟨.ground, opened⟩ cs = some t) (level : Nat) :
    run ⟨.ground, opened⟩ ((lines cs).flatMap (indentLine level)) = some t := by
  fun_induction lines cs generalizing opened with
  | case1 cs none empty =>
      rw [List.isEmpty_iff.1 empty] at h
      exact h
  | case2 cs none nonempty =>
      rw [List.flatMap_singleton, run_indentLine]
      exact h
  | case3 cs lineBreak rest found ih =>
      rcases eq_append_break found with ⟨rfl, split⟩
      rw [← List.singleton_append, ← List.append_assoc] at split
      rw [split, run_append, run_append] at h
      rcases Option.bind_eq_some_iff.1 h with ⟨u, line, after⟩
      rcases Option.bind_eq_some_iff.1 line with ⟨v, front, last⟩
      rcases Option.bind_eq_some_iff.1 last with ⟨w, last, same⟩
      cases same
      -- Neither a word nor a string goes on behind a line break, so blanks may be put there.
      have ground : u = ⟨.ground, u.opened⟩ := by
        rw [← mode_of_break last]
      rw [List.flatMap_cons, run_append, run_indentLine, run_append, front]
      change (run v ['\n']).bind _ = _
      rw [run, last]
      change run u _ = _
      rw [ground] at after ⊢
      exact ih after

theorem Code.indent {text : String} (code : Code text) (level : Nat) :
    Code (indent level text) := by
  intro opened
  rcases code opened with ⟨n, refines, reads⟩
  refine ⟨n, refines, ?_⟩
  rw [Text.indent, String.toList_ofList]
  exact run_indentedLines reads level

/-! ## Holes -/

/-- A part of a text. -/
inductive Part where
  | fixed (text : String)
  /-- Any text that is read from the one mode to the other one. -/
  | hole (first last : Mode)
  deriving Repr, DecidableEq

namespace Part

/-- An expression or a type. -/
abbrev atom : Part := hole .ground .complete

/-- A name or a path. -/
abbrev word : Part := hole .ground .word

/-- Statements, or an expression that ends with a bracket. -/
abbrev code : Part := hole .ground .ground

/-- The inside of a string. -/
abbrev inString : Part := hole .string .string

/-- The inside of a comment. -/
abbrev inComment : Part := hole .comment .comment

end Part

/-- The parts with texts in the holes. -/
def fill : List Part → List String → String
  | [], _ => ""
  | .fixed text :: parts, texts => text ++ fill parts texts
  | .hole _ _ :: parts, text :: texts => text ++ fill parts texts
  | .hole _ _ :: _, [] => ""

/-- Each hole has a text that fits. -/
def AllFit : List Part → List String → Prop
  | [], texts => texts = []
  | .fixed _ :: parts, texts => AllFit parts texts
  | .hole first last :: parts, text :: texts => Fits first last text ∧ AllFit parts texts
  | .hole _ _ :: _, [] => False

/-- The state after the parts, if each hole is where its texts may stand. -/
def scan (s : LexState) : List Part → Option LexState
  | [] => some s
  | .fixed text :: parts => (run s text.toList).bind (scan · parts)
  | .hole first last :: parts => if s.mode = first then scan ⟨last, s.opened⟩ parts else none

theorem run_fill {s t : LexState} {parts : List Part} {texts : List String}
    (scanned : scan s parts = some t) (fits : AllFit parts texts) {n : Mode}
    (refines : n.Refines s.mode) (outer : List Bracket) :
    ∃ m, m.Refines t.mode ∧
      run ⟨n, s.opened ++ outer⟩ (fill parts texts).toList = some ⟨m, t.opened ++ outer⟩ := by
  induction parts generalizing s n texts with
  | nil =>
      cases scanned
      exact ⟨n, refines, rfl⟩
  | cons part parts ih =>
      cases part with
      | fixed text =>
          rcases Option.bind_eq_some_iff.1 scanned with ⟨u, read, rest⟩
          -- A part is scanned with the brackets of the template only, and stands inside of others.
          have around : (s.within outer).run text.toList = some (u.within outer) := run_within read
          rcases run_refines (s := s.within outer) refines around with ⟨m, after, read⟩
          rcases ih rest fits after with ⟨k, atEnd, rest⟩
          refine ⟨k, atEnd, ?_⟩
          rw [fill, String.toList_append, run_append]
          exact (congrArg (Option.bind · _) read).trans rest
      | hole first last =>
          rcases Option.ite_none_right_eq_some.1 scanned with ⟨same, rest⟩
          cases texts with
          | nil => cases fits
          | cons text texts =>
              rcases fits with ⟨fit, fits⟩
              -- The text is read from the mode of the hole; what stands before it may end in a mode
              -- that tells more.
              rcases fit (s.opened ++ outer) with ⟨m, after, read⟩
              rw [same] at refines
              rcases run_refines refines read with ⟨k, after', read⟩
              rcases ih (s := ⟨last, s.opened⟩) rest fits (after'.trans after) with ⟨l, atEnd, rest⟩
              refine ⟨l, atEnd, ?_⟩
              rw [fill, String.toList_append, run_append]
              exact (congrArg (Option.bind · _) read).trans rest

/-- A text of fixed parts and filled holes fits if the fixed parts do. -/
theorem Fits.of_parts {a b : Mode} {text : String} (parts : List Part) (texts : List String)
    (scanned : scan ⟨a, []⟩ parts = some ⟨b, []⟩) (fits : AllFit parts texts)
    (same : fill parts texts = text) : Fits a b text := by
  intro opened
  rcases run_fill scanned fits .refl opened with ⟨n, refines, read⟩
  exact ⟨n, refines, same ▸ read⟩

end Lexical
end ClusterCodec

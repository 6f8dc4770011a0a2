import ClusterCodec.Proofs.StructuralReading

/-!
# Truncation — texts that end inside their root

- `openElements`, `missingEnds`: how many elements are open where the events end.
- `events_of_closed`, `events_of_unclosed`: the events of a body that is closed are those of its nodes,
  and the events of one that is not become so with the missing end tags.
- `Cluster.ofText_eq_ok_iff`: a text is accepted exactly if it is with the missing end tags at its end
  and its markup does not break off inside the root.
- `Cluster.ofText_cutText`: so a text is accepted of which only the beginning has arrived.
-/

namespace ClusterCodec
namespace Reading

open Xml

/-! ## Open elements -/

/-- How many of `depth` open elements, and of those that are opened inside them, are open where the
events end. What follows the end of the outermost one does not count. -/
def openElements : (depth : Nat) → List Xml.Event → Nat
  | 0, _ => 0
  | depth, [] => depth
  | depth + 1, .start _ :: es => openElements (depth + 2) es
  | depth + 1, .close :: es => openElements depth es
  | depth + 1, .empty _ :: es => openElements (depth + 1) es
  | depth + 1, .other :: es => openElements (depth + 1) es

theorem openElements_zero (es : List Xml.Event) : openElements 0 es = 0 := by
  cases es <;> rfl

/-- How many end tags the root and the elements inside it lack. -/
def missingEnds : List Xml.Event → Nat
  | [] => 0
  | .start _ :: es => openElements 1 es
  | .empty _ :: _ => 0
  | .close :: es => missingEnds es
  | .other :: es => missingEnds es

/-- The events with the end tags that are missing. -/
def completed (es : List Xml.Event) : List Xml.Event :=
  es ++ List.replicate (missingEnds es) .close

/-- An element whose body is closed is delivered by its start tag and the events up to the rest. -/
theorem events_element_append {tag : Tag} {es rest : List Xml.Event} {nodes : List Node}
    (events : es = eventsOf nodes ++ .close :: rest) :
    .start tag :: es = (Node.element tag (some nodes)).events ++ rest := by
  rw [Node.events, List.cons_append, List.append_assoc]
  exact congrArg (.start tag :: ·) events

/-- A body that is closed has the events of its nodes and an end tag, which ends one open element. -/
theorem events_of_closed (es : List Xml.Event) (rest : Rest es)
    (closed : (bodyOf es).2 = some rest) :
    es = eventsOf (bodyOf es).1 ++ .close :: rest.1 ∧
      ∀ depth, openElements (depth + 1) es = openElements depth rest.1 := by
  fun_induction bodyOf es with
  | case1 => cases closed
  | case2 es =>
      cases closed
      exact ⟨rfl, fun _ => rfl⟩
  | case3 es ih =>
      rcases Option.map_eq_some_iff.1 closed with ⟨last, ends, rfl⟩
      rcases ih last ends with ⟨events, depths⟩
      exact ⟨congrArg (List.cons Xml.Event.other) events, depths⟩
  | case4 tag es ih =>
      rcases Option.map_eq_some_iff.1 closed with ⟨last, ends, rfl⟩
      rcases ih last ends with ⟨events, depths⟩
      exact ⟨congrArg (List.cons (Xml.Event.empty tag)) events, depths⟩
  | case5 => cases closed
  | case6 tag es inner child ih ih' =>
      rcases Option.map_eq_some_iff.1 closed with ⟨last, ends, rfl⟩
      rcases ih inner child with ⟨events, depths⟩
      rcases ih' last ends with ⟨events', depths'⟩
      refine ⟨?_, fun depth => (depths (depth + 1)).trans (depths' depth)⟩
      dsimp only
      rw [eventsOf, List.append_assoc]
      exact (events_element_append events).trans (congrArg _ events')

/-- A body that is not closed has the events of its nodes once the missing end tags are there, and each
element around it lacks one end tag more. -/
theorem events_of_unclosed (es : List Xml.Event) (unclosed : (bodyOf es).2 = none) :
    es ++ List.replicate (openElements 1 es) .close = eventsOf (bodyOf es).1 ++ [.close] ∧
      ∀ depth, openElements (depth + 1) es = openElements 1 es + depth := by
  fun_induction bodyOf es with
  | case1 => exact ⟨rfl, fun depth => Nat.add_comm depth 1⟩
  | case2 => cases unclosed
  | case3 es ih =>
      rcases ih (Option.map_eq_none_iff.1 unclosed) with ⟨events, depths⟩
      exact ⟨congrArg (List.cons Xml.Event.other) events, depths⟩
  | case4 tag es ih =>
      rcases ih (Option.map_eq_none_iff.1 unclosed) with ⟨events, depths⟩
      exact ⟨congrArg (List.cons (Xml.Event.empty tag)) events, depths⟩
  | case5 tag es inner ih =>
      -- The child is open where the events end, and so is the element around it.
      rcases ih inner with ⟨events, depths⟩
      have opened : openElements 1 (.start tag :: es) = openElements 1 es + 1 := depths 1
      refine ⟨?_, fun depth => ?_⟩
      · rw [opened, List.replicate_succ', List.cons_append, ← List.append_assoc, events]
        simp [eventsOf, Node.events]
      · rw [opened]
        exact (depths (depth + 1)).trans (by omega)
  | case6 tag es inner child ih ih' =>
      rcases events_of_closed es inner child with ⟨events, depths⟩
      rcases ih' (Option.map_eq_none_iff.1 unclosed) with ⟨events', depths'⟩
      have opened (depth : Nat) :
          openElements (depth + 1) (.start tag :: es) = openElements (depth + 1) inner.1 :=
        depths (depth + 1)
      refine ⟨?_, fun depth => ?_⟩
      · dsimp only
        rw [opened 0, events_element_append events, List.append_assoc, events', eventsOf,
          List.append_assoc]
      · rw [opened depth, opened 0]
        exact depths' depth

/-- An element that is closed lacks no end tag. -/
theorem missingEnds_of_closed (tag : Tag) {es : List Xml.Event} {rest : Rest es}
    (closed : (bodyOf es).2 = some rest) : missingEnds (.start tag :: es) = 0 :=
  ((events_of_closed es rest closed).2 0).trans (openElements_zero _)

/-- An element that is not closed lacks an end tag, and with those that are missing it is delivered. -/
theorem completed_of_unclosed (tag : Tag) {es : List Xml.Event} (unclosed : (bodyOf es).2 = none) :
    missingEnds (.start tag :: es) ≠ 0 ∧
      completed (.start tag :: es) = (Node.element tag (some (bodyOf es).1)).events := by
  have events := (events_of_unclosed es unclosed).1
  constructor
  · intro nothing
    have inside := bodyOf_eventsOf (bodyOf es).1 []
    rw [← events, show openElements 1 es = 0 from nothing, List.replicate_zero, List.append_nil,
      unclosed] at inside
    cases inside.2
  · rw [Node.events]
    exact congrArg (List.cons (Xml.Event.start tag)) events

/-- A document is read without an error exactly if it is with the missing end tags, and there is no
fault in the markup of an element that is open where the events end. -/
theorem readRoot_eq_ok_iff {fault : Option Fault} {es : List Xml.Event} {c : Cluster} :
    readRoot fault es = .ok c ↔
      (missingEnds es = 0 ∨ fault = none) ∧ readRoot none (completed es) = .ok c := by
  induction es with
  | nil => cases fault <;> simp [readRoot, missingEnds, completed]
  | cons e es ih =>
      cases e with
      | close => exact ih
      | other => exact ih
      | empty tag =>
          refine ⟨fun reads => ⟨.inl rfl, ?_⟩, fun reads => ?_⟩
          · exact reads
          · exact reads.2
      | start tag =>
          -- The first element is the root; only what is missing inside it counts.
          rw [readRoot_start]
          cases closed : (bodyOf es).2 with
          | none =>
              rcases completed_of_unclosed tag closed with ⟨lacks, whole⟩
              rw [whole, ← List.append_nil (Node.events _), readRoot_events,
                restAfter_of_unclosed closed]
              cases fault with
              | some fault =>
                  refine iff_of_false ?_ ?_
                  · cases clusterIn (tag, some (bodyOf es).1) with
                    | error e => rintro ⟨⟩
                    | ok c' => rintro ⟨⟩
                  · rintro ⟨nothing | noFault, -⟩
                    · exact lacks nothing
                    · cases noFault
              | none =>
                  refine ⟨fun reads => ⟨.inr rfl, ?_⟩, fun reads => ?_⟩
                  · rw [← reads]
                    cases clusterIn (tag, some (bodyOf es).1) <;> rfl
                  · rw [reads.2]
                    rfl
          | some rest =>
              have nothing := missingEnds_of_closed tag closed
              rw [completed, nothing, List.replicate_zero, List.append_nil, readRoot_start,
                restAfter_of_closed closed, restAfter_of_closed closed]
              simp

end Reading

open Reading Xml

/-- A text is accepted exactly if the same text with the missing end tags is, and its markup does not
break off inside the root. -/
theorem Cluster.ofText_eq_ok_iff {text : String} {c : Cluster} :
    Cluster.ofText text = .ok c ↔
      (missingEnds (Stream.ofText text).events = 0 ∨ (Stream.ofText text).fault = none) ∧
        Cluster.ofStream ⟨completed (Stream.ofText text).events, none⟩ = .ok c :=
  readRoot_eq_ok_iff

/-- A document of which the last two end tags, and a command before them, have not arrived. -/
def cutText : String :=
  "<cluster id=\"0x0006\" name=\"Switch\"><commands><command id=\"0x00\" name=\"Off\"/>"

def wholeText : String :=
  cutText ++ "<command id=\"0x01\" name=\"On\"/></commands></cluster>"

/-- The part is accepted, with the command that it has. -/
theorem Cluster.ofText_cutText :
    missingEnds (Stream.ofText wholeText).events = 0 ∧
      missingEnds (Stream.ofText cutText).events = 2 ∧
      ∃ c, Cluster.ofText cutText = .ok c ∧ c.commands.map Command.name = ["Off"] := by
  refine ⟨by decide +kernel, by decide +kernel, ?_⟩
  have names : (Cluster.ofText cutText).toOption.map (·.commands.map Command.name) =
      some ["Off"] := by decide +kernel
  cases reads : Cluster.ofText cutText with
  | error e =>
      rw [reads] at names
      cases names
  | ok c =>
      rw [reads] at names
      exact ⟨c, rfl, Option.some.inj names⟩

end ClusterCodec

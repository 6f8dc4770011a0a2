import ClusterCodec.Reading.Visit
import ClusterCodec.Xml.Document
import Mathlib.Data.List.Basic

/-!
# DocumentTree — the events of a document as a tree

- `bodyOf`: the nodes of an element, read off the events behind its start tag.
- `bodyOf_events_append`, `bodyOf_eventsOf`: the events of a tree are read as that tree.
- `rootOf`: the root of a document, read off all its events.
- `skipToEnd_eq`: passing an element is passing its body.
- `BodyReader.Gives`, `Visitor.Follows`: what it means that a reader of events computes a function of
  the tree and stops behind it.
- `forEachChild_eq`: going through the children event by event is a fold over the elements of the
  body, whatever else stands between them.
-/

namespace ClusterCodec
namespace Reading

open Xml

/-! ## Bodies -/

/-- The nodes of an element whose start tag has just been read, and what follows its end tag. Where
the events run out before that tag, nothing follows, and every open element ends there. -/
def bodyOf (es : List Xml.Event) : List Node × Option (Rest es) :=
  match es with
  | [] => ([], none)
  | .close :: es => ([], some ⟨es, Nat.le_succ _⟩)
  | .other :: es => (.other :: (bodyOf es).1, (bodyOf es).2.map (.behind .other))
  | .empty tag :: es =>
    (.element tag none :: (bodyOf es).1, (bodyOf es).2.map (.behind (.empty tag)))
  | .start tag :: es =>
    match (bodyOf es).2 with
    | none => ([.element tag (some (bodyOf es).1)], none)
    | some rest =>
      (.element tag (some (bodyOf es).1) :: (bodyOf rest.1).1,
        (bodyOf rest.1).2.map fun last => (rest.within last).behind (.start tag))
termination_by es.length
decreasing_by
  all_goals first
    | exact Nat.lt_succ_self _
    | exact Nat.lt_succ_of_le rest.2

theorem bodyOf_other (es : List Xml.Event) :
    bodyOf (.other :: es) = (.other :: (bodyOf es).1, (bodyOf es).2.map (.behind .other)) := by
  rw [bodyOf]

theorem bodyOf_empty (tag : Tag) (es : List Xml.Event) :
    bodyOf (.empty tag :: es) =
      (.element tag none :: (bodyOf es).1, (bodyOf es).2.map (.behind (.empty tag))) := by
  rw [bodyOf]

theorem bodyOf_start {tag : Tag} {es : List Xml.Event} {rest : Rest es}
    (closed : (bodyOf es).2 = some rest) :
    bodyOf (.start tag :: es) = (.element tag (some (bodyOf es).1) :: (bodyOf rest.1).1,
        (bodyOf rest.1).2.map fun last => (rest.within last).behind (.start tag)) := by
  rw [bodyOf, closed]

mutual

/-- The events of a node are read as that node. -/
theorem bodyOf_events_append (node : Node) (es : List Xml.Event) :
    (bodyOf (node.events ++ es)).1 = node :: (bodyOf es).1 ∧
      (bodyOf (node.events ++ es)).2.map Subtype.val = (bodyOf es).2.map Subtype.val := by
  match node with
  | .other =>
      rw [Node.events, List.singleton_append, bodyOf_other]
      exact ⟨rfl, Option.map_map ..⟩
  | .element tag none =>
      rw [Node.events, List.singleton_append, bodyOf_empty]
      exact ⟨rfl, Option.map_map ..⟩
  | .element tag (some body) =>
      have inside := bodyOf_eventsOf body es
      rcases Option.map_eq_some_iff.1 inside.2 with ⟨⟨rest, bound⟩, closed, same⟩
      have events : (Node.element tag (some body)).events ++ es =
          .start tag :: (eventsOf body ++ .close :: es) := by
        rw [Node.events]
        simp
      change rest = es at same
      subst rest
      rw [events, bodyOf_start closed, inside.1]
      exact ⟨rfl, Option.map_map ..⟩

/-- The events of some nodes, up to the end tag, are read as these nodes. -/
theorem bodyOf_eventsOf (nodes : List Node) (rest : List Xml.Event) :
    (bodyOf (eventsOf nodes ++ .close :: rest)).1 = nodes ∧
      (bodyOf (eventsOf nodes ++ .close :: rest)).2.map Subtype.val = some rest := by
  match nodes with
  | [] =>
      rw [eventsOf, List.nil_append, bodyOf]
      exact ⟨rfl, rfl⟩
  | node :: nodes =>
      have first := bodyOf_events_append node (eventsOf nodes ++ .close :: rest)
      have others := bodyOf_eventsOf nodes rest
      rw [eventsOf, List.append_assoc, first.1, first.2, others.1, others.2]
      exact ⟨rfl, rfl⟩

end

/-- The first element, with all that is inside it. -/
def rootOf : List Xml.Event → Option Element
  | [] => none
  | .start tag :: es => some (tag, some (bodyOf es).1)
  | .empty tag :: _ => some (tag, none)
  | .close :: es | .other :: es => rootOf es

variable (fault : Option Fault)

/-- What follows the end tag of an element whose start tag has just been read. -/
def restAfter (es : List Xml.Event) : Except ReadError (Rest es) :=
  match (bodyOf es).2 with
  | some rest => .ok rest
  | none => (atEnd fault).map fun _ => ⟨[], Nat.zero_le _⟩

variable {fault}

theorem ok_bind {ε α β : Type} (a : α) (f : α → Except ε β) : (Except.ok a >>= f) = f a := rfl

theorem map_map {ε α β γ : Type} (f : α → β) (g : β → γ) (x : Except ε α) :
    (x.map f).map g = x.map (g ∘ f) := by
  cases x <;> rfl

theorem restAfter_of_closed {es : List Xml.Event} {rest : Rest es}
    (closed : (bodyOf es).2 = some rest) : restAfter fault es = .ok rest := by
  rw [restAfter, closed]

theorem restAfter_of_unclosed {es : List Xml.Event} (unclosed : (bodyOf es).2 = none) :
    restAfter fault es = (atEnd fault).map fun _ => ⟨[], Nat.zero_le _⟩ := by
  rw [restAfter, unclosed]

theorem restAfter_other (es : List Xml.Event) :
    restAfter fault (.other :: es) = (restAfter fault es).map (.behind .other) := by
  rw [restAfter, bodyOf_other, restAfter]
  cases (bodyOf es).2 with
  | none => cases fault <;> rfl
  | some rest => rfl

theorem restAfter_empty (tag : Tag) (es : List Xml.Event) :
    restAfter fault (.empty tag :: es) = (restAfter fault es).map (.behind (.empty tag)) := by
  rw [restAfter, bodyOf_empty, restAfter]
  cases (bodyOf es).2 with
  | none => cases fault <;> rfl
  | some rest => rfl

/-- Behind a child that is closed comes what follows its parent. -/
theorem restAfter_start {tag : Tag} {es : List Xml.Event} {rest : Rest es}
    (closed : (bodyOf es).2 = some rest) :
    restAfter fault (.start tag :: es) =
      (restAfter fault rest.1).map fun last => (rest.within last).behind (.start tag) := by
  rw [restAfter, bodyOf_start closed, restAfter]
  cases (bodyOf rest.1).2 with
  | none => cases fault <;> rfl
  | some last => rfl

/-- Passing ends with the element in which it began: each element that is open besides ends before
that one. -/
theorem skipToEnd_eq (depth : Nat) (es : List Xml.Event) :
    skipToEnd fault depth es =
      match (bodyOf es).2, depth with
      | none, _ => (atEnd fault).map fun _ => ⟨[], Nat.zero_le _⟩
      | some rest, 0 => .ok rest
      | some rest, outer + 1 => (skipToEnd fault outer rest.1).map rest.within := by
  fun_induction bodyOf es generalizing depth with
  | case1 => rfl
  | case2 es => cases depth <;> rfl
  | case3 es ih =>
      rw [skipToEnd, ih]
      cases (bodyOf es).2 with
      | none => exact map_map _ _ _
      | some rest => cases depth with
        | zero => rfl
        | succ outer => exact map_map _ _ _
  | case4 tag es ih =>
      rw [skipToEnd, ih]
      cases (bodyOf es).2 with
      | none => exact map_map _ _ _
      | some rest => cases depth with
        | zero => rfl
        | succ outer => exact map_map _ _ _
  | case5 tag es none ih =>
      rw [skipToEnd, ih, none]
      exact map_map _ _ _
  | case6 tag es rest some ih ih' =>
      -- The child ends first, and passing goes on behind it at the depth of its parent.
      rw [skipToEnd, ih, some]
      simp only []
      rw [ih']
      cases (bodyOf rest.1).2 with
      | none => exact (map_map _ _ _).trans (map_map _ _ _)
      | some last => cases depth with
        | zero => rfl
        | succ outer => exact (map_map _ _ _).trans (map_map _ _ _)

theorem skipToEnd_zero (es : List Xml.Event) : skipToEnd fault 0 es = restAfter fault es := by
  rw [skipToEnd_eq, restAfter]
  cases (bodyOf es).2 <;> rfl

/-! ## Visitors and the tree -/

section Follows

variable {σ α β : Type} (fault)

/-- The body of an element, if it has one, in the events behind its tag. -/
def bodyIn (hasBody : Bool) (es : List Xml.Event) : Option (List Node) :=
  if hasBody then some (bodyOf es).1 else none

/-- What follows an element, in the events behind its tag. -/
def restIn (hasBody : Bool) (es : List Xml.Event) : Except ReadError (Rest es) :=
  if hasBody then restAfter fault es else .ok (.whole es)

/-- From the events behind a tag the reader gets what `of` gets from the body, and it leaves what
follows the element. -/
def BodyReader.Gives (read : BodyReader α) (of : Option (List Node) → Except ReadError α) : Prop :=
  ∀ hasBody es, read hasBody es = do
    let a ← of (bodyIn hasBody es)
    let rest ← restIn fault hasBody es
    return (a, rest)

/-- With each child the visitor does what `step` does with the element, and the child ends where the
element does. -/
def Visitor.Follows (visit : Visitor σ) (step : σ → Element → Except ReadError σ) : Prop :=
  ∀ s tag hasBody es, takeUp fault visit s tag hasBody es = do
    let s ← step s (tag, bodyIn hasBody es)
    let rest ← restIn fault hasBody es
    return (s, rest)

variable {fault}

section Siblings

variable {visit : Visitor σ} {step : σ → Element → Except ReadError σ}

/-- A child without a body ends with its tag, and its siblings come behind that. -/
theorem forEachChild_empty (follows : visit.Follows fault step) (s : σ) (tag : Tag)
    (es : List Xml.Event) :
    forEachChild fault visit s (.empty tag :: es) = do
      let s ← step s (tag, none)
      let (s, rest) ← forEachChild fault visit s es
      return (s, rest.behind (.empty tag)) := by
  have body : bodyIn false es = none := rfl
  rw [forEachChild, follows, body]
  cases step s (tag, none) with
  | error e => rfl
  | ok s' =>
      have behind : restIn fault false es = .ok (.whole es) := rfl
      simp only [behind, ok_bind, pure_bind, Rest.val_whole]
      cases forEachChild fault visit s' es <;> rfl

/-- Behind the end of a child with a body its siblings come. -/
theorem forEachChild_start (follows : visit.Follows fault step) (s : σ) (tag : Tag)
    (es : List Xml.Event) :
    forEachChild fault visit s (.start tag :: es) = do
      let s ← step s (tag, some (bodyOf es).1)
      let behind ← restAfter fault es
      let (s, rest) ← forEachChild fault visit s behind.1
      return (s, (behind.within rest).behind (.start tag)) := by
  have body : bodyIn true es = some (bodyOf es).1 := rfl
  have behind : restIn fault true es = restAfter fault es := rfl
  rw [forEachChild, follows, body, behind]
  cases step s (tag, some (bodyOf es).1) with
  | error e => rfl
  | ok s' => cases restAfter fault es <;> rfl

/-- Visiting the children of an element, event by event, is going through the elements of its
body. -/
theorem forEachChild_eq (follows : visit.Follows fault step) (s : σ) (es : List Xml.Event) :
    forEachChild fault visit s es = do
      let s ← (elementsOf (bodyOf es).1).foldlM step s
      let rest ← restAfter fault es
      return (s, rest) := by
  fun_induction bodyOf es generalizing s with
  | case1 =>
      rw [forEachChild, restAfter, bodyOf]
      cases fault <;> rfl
  | case2 es =>
      rw [forEachChild, restAfter, bodyOf]
      rfl
  | case3 es ih =>
      have same : elementsOf (.other :: (bodyOf es).1) = elementsOf (bodyOf es).1 := rfl
      rw [forEachChild, ih, same, restAfter_other]
      cases (elementsOf (bodyOf es).1).foldlM step s with
      | error e => rfl
      | ok s' => cases restAfter fault es <;> rfl
  | case4 tag es ih =>
      have first : elementsOf (.element tag none :: (bodyOf es).1) =
          (tag, none) :: elementsOf (bodyOf es).1 := rfl
      rw [forEachChild_empty follows, first, List.foldlM_cons, restAfter_empty]
      cases step s (tag, none) with
      | error e => rfl
      | ok s' =>
          simp only [ok_bind, ih]
          cases (elementsOf (bodyOf es).1).foldlM step s' with
          | error e => rfl
          | ok s'' => cases restAfter fault es <;> rfl
  | case5 tag es unclosed ih =>
      -- The child ends where the text does, and so does its parent.
      have parent : (bodyOf (.start tag :: es)).2 = none := by
        rw [bodyOf, unclosed]
      have alone : elementsOf [.element tag (some (bodyOf es).1)] =
          [(tag, some (bodyOf es).1)] := rfl
      rw [forEachChild_start follows, alone, List.foldlM_cons, restAfter_of_unclosed unclosed,
        restAfter_of_unclosed parent]
      cases step s (tag, some (bodyOf es).1) with
      | error e => rfl
      | ok s' =>
          cases fault with
          | some fault => rfl
          | none =>
              simp only [ok_bind, atEnd, Except.map, forEachChild]
              rfl
  | case6 tag es rest closed ih ih' =>
      have first : elementsOf (.element tag (some (bodyOf es).1) :: (bodyOf rest.1).1) =
          (tag, some (bodyOf es).1) :: elementsOf (bodyOf rest.1).1 := rfl
      rw [forEachChild_start follows, first, List.foldlM_cons, restAfter_of_closed closed,
        restAfter_start closed]
      cases step s (tag, some (bodyOf es).1) with
      | error e => rfl
      | ok s' =>
          simp only [ok_bind, ih']
          cases (elementsOf (bodyOf rest.1).1).foldlM step s' with
          | error e => rfl
          | ok s'' => cases restAfter fault rest.1 <;> rfl

end Siblings

/-- The elements directly inside an element. -/
def childrenOf (body : Option (List Node)) : List Element :=
  elementsOf (body.getD [])

/-- The children with a name. -/
def elementsNamed (name : String) (body : Option (List Node)) : List Element :=
  (childrenOf body).filter (·.1.name == name)

theorem gives_readBody {visit : Visitor σ} {step : σ → Element → Except ReadError σ}
    (follows : visit.Follows fault step) (s : σ) :
    (readBody fault visit s).Gives fault fun body => (childrenOf body).foldlM step s := by
  intro hasBody es
  cases hasBody with
  | false => rfl
  | true => exact forEachChild_eq follows s es

section Child

variable {visit : Visitor σ} {s : σ} {tag : Tag} {hasBody : Bool} {es : List Xml.Event}

/-- A child that the visitor passes ends where the element does. -/
theorem takeUp_of_unread {s' : σ}
    (unread : visit s tag hasBody es = .ok ⟨s', false, .whole es⟩) :
    takeUp fault visit s tag hasBody es = do
      let rest ← restIn fault hasBody es
      return (s', rest) := by
  rw [takeUp, unread]
  cases hasBody with
  | false => rfl
  | true =>
      simp only [ok_bind, skipToEnd_zero, Rest.val_whole, restIn, if_pos]
      cases restAfter fault es <;> rfl

/-- So does a child whose body has been read. -/
theorem takeUp_of_gives {read : BodyReader α} {of : Option (List Node) → Except ReadError α}
    (gives : read.Gives fault of) (add : α → σ)
    (consumed : visit s tag hasBody es =
      (read hasBody es).map fun (a, rest) => ⟨add a, true, rest⟩) :
    takeUp fault visit s tag hasBody es = do
      let s ← (of (bodyIn hasBody es)).map add
      let rest ← restIn fault hasBody es
      return (s, rest) := by
  rw [takeUp, consumed, gives]
  cases of (bodyIn hasBody es) with
  | error e => rfl
  | ok a => cases restIn fault hasBody es with
    | error e => rfl
    | ok rest => cases hasBody <;> rfl

end Child

theorem follows_ofTag (step : σ → Tag → Except ReadError σ) :
    (Visitor.ofTag step).Follows fault fun s child => step s child.1 := by
  intro s tag hasBody es
  dsimp only
  cases stepped : step s tag with
  | error e =>
      have fails : Visitor.ofTag step s tag hasBody es = .error e := by
        rw [Visitor.ofTag, stepped]
        rfl
      rw [takeUp, fails]
      rfl
  | ok s' =>
      refine takeUp_of_unread ?_
      rw [Visitor.ofTag, stepped]
      rfl

theorem follows_named {name : String} {read : Tag → BodyReader α}
    {of : Element → Except ReadError α} {add : σ → α → σ}
    (gives : ∀ tag, (read tag).Gives fault fun body => of (tag, body)) :
    (Visitor.named name read add).Follows fault fun s child =>
      if child.1.name = name then (of child).map (add s) else .ok s := by
  intro s tag hasBody es
  dsimp only
  by_cases named : tag.name = name
  · rw [if_pos named]
    exact takeUp_of_gives (gives tag) (add s) (if_pos named)
  · rw [if_neg named]
    exact takeUp_of_unread (if_neg named)

/-- Values that are put at the end one by one. -/
theorem foldlM_eq_mapM {name : String} (of : Element → Except ReadError α) (found : List α)
    (children : List Element) :
    children.foldlM (fun found child =>
      if child.1.name = name then (of child).map (fun a => found ++ [a]) else .ok found) found =
      ((children.filter (·.1.name == name)).mapM of).map (found ++ ·) := by
  induction children generalizing found with
  | nil => exact congrArg Except.ok (List.append_nil found).symm
  | cons child children ih =>
      rw [List.foldlM_cons]
      by_cases named : child.1.name = name
      · have kept : (child :: children).filter (·.1.name == name) =
            child :: children.filter (·.1.name == name) :=
          List.filter_cons_of_pos (by simpa using named)
        -- Putting values at the end one by one is putting all of them there, in order.
        rw [if_pos named, kept, List.mapM_cons]
        cases of child with
        | error e => rfl
        | ok a =>
            refine (ih (found ++ [a])).trans ?_
            cases (children.filter (·.1.name == name)).mapM of with
            | error e => rfl
            | ok others => exact congrArg Except.ok (List.append_assoc _ _ _)
      · rw [if_neg named, List.filter_cons_of_neg (by simpa using named)]
        exact ih found

theorem gives_readAll {name : String} {read : Tag → BodyReader α}
    {of : Element → Except ReadError α}
    (gives : ∀ tag, (read tag).Gives fault fun body => of (tag, body)) :
    (readAll fault name read).Gives fault fun body => (elementsNamed name body).mapM of := by
  intro hasBody es
  refine (gives_readBody (follows_named gives) [] hasBody es).trans ?_
  dsimp only
  rw [foldlM_eq_mapM, elementsNamed]
  cases ((childrenOf (bodyIn hasBody es)).filter (·.1.name == name)).mapM of <;> rfl

end Follows

end Reading
end ClusterCodec

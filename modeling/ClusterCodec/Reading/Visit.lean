import ClusterCodec.Xml.Event

/-!
# Visit — going through the children of an element, event by event

- `ReadError`: why a document cannot be read; `ReadError.message`: the wording.
- `Rest`: the events that are still to be read.
- `atEnd`: what it means that there are none.
- `skipToEnd`: passes what is left of an element.
- `Visitor`: takes up a child, and either reads its body or leaves it to be passed.
- `forEachChild`: hands the direct children of an element to a visitor.
- `readBody`, `readAll`: what the children of an element come to.
-/

namespace ClusterCodec

/-! ## Errors -/

/-- Faults of the markup, a document without a root, a field with an unusable id, a file that cannot
be read. -/
inductive ReadError where
  | markup (fault : Xml.Fault)
  | missingElement (element : String)
  | invalidAttribute (element key value : String)
  | file (reason : String)
  deriving Repr, DecidableEq

def ReadError.message : ReadError → String
  | .markup fault => "XML parsing error: " ++ fault.message
  | .missingElement element => "missing required element '" ++ element ++ "'"
  | .invalidAttribute element key value =>
    "invalid value '" ++ value ++ "' for attribute '" ++ key ++ "' on element '" ++ element ++
      "'"
  | .file reason => "IO error: " ++ reason

namespace Reading

open Xml

/-! ## Events and children -/

/-- What is left of some events. -/
abbrev Rest (es : List Xml.Event) : Type :=
  { rest : List Xml.Event // rest.length ≤ es.length }

/-- Nothing has been read yet. -/
def Rest.whole (es : List Xml.Event) : Rest es :=
  ⟨es, Nat.le_refl _⟩

theorem Rest.val_whole (es : List Xml.Event) : (Rest.whole es).1 = es := rfl

/-- What is left after one event more. -/
def Rest.behind {es : List Xml.Event} (e : Xml.Event) (rest : Rest es) : Rest (e :: es) :=
  ⟨rest.1, Nat.le_succ_of_le rest.2⟩

/-- What is left in the end, after a part that left `rest`. -/
def Rest.within {es : List Xml.Event} (rest : Rest es) (last : Rest rest.1) : Rest es :=
  ⟨last.1, Nat.le_trans last.2 rest.2⟩

section

-- What is wrong with the markup behind the last event, if it breaks off there.
variable (fault : Option Fault)

/-- There are no more events: the markup breaks off, or the text ends. -/
def atEnd : Except ReadError Unit :=
  match fault with
  | some fault => .error (.markup fault)
  -- The end of the text ends every element that is still open.
  | none => .ok ()

/-- Passes the rest of an element inside which `depth` elements are open. -/
def skipToEnd (depth : Nat) : (es : List Xml.Event) → Except ReadError (Rest es)
  | [] => (atEnd fault).map fun _ => ⟨[], Nat.le_refl _⟩
  | .start tag :: es => (skipToEnd (depth + 1) es).map (.behind (.start tag))
  | .close :: es =>
    match depth with
    | 0 => .ok ⟨es, Nat.le_succ _⟩
    | outer + 1 => (skipToEnd outer es).map (.behind .close)
  | .empty tag :: es => (skipToEnd depth es).map (.behind (.empty tag))
  | .other :: es => (skipToEnd depth es).map (.behind .other)

/-- What a visitor made of a child that comes before the events `es`. -/
structure Visited (σ : Type) (es : List Xml.Event) where
  state : σ
  /-- Whether the body of the child has been read. -/
  consumed : Bool
  rest : Rest es

/-- Takes up a child: its tag, whether it has a body, and the events from its body on. -/
abbrev Visitor (σ : Type) : Type :=
  σ → Tag → Bool → (es : List Xml.Event) → Except ReadError (Visited σ es)

variable {σ : Type}

/-- A visitor that looks at the tag only. -/
def Visitor.ofTag (step : σ → Tag → Except ReadError σ) : Visitor σ :=
  fun s tag _ es => (step s tag).map fun s => ⟨s, false, .whole es⟩

/-- Reads a value from the body of an element, if the element has one, given the events behind its
tag. -/
abbrev BodyReader (α : Type) : Type :=
  (hasBody : Bool) → (es : List Xml.Event) → Except ReadError (α × Rest es)

/-- Takes up a child. A body that the visitor has not read is passed with everything in it. -/
def takeUp (visit : Visitor σ) (s : σ) (tag : Tag) (hasBody : Bool) (es : List Xml.Event) :
    Except ReadError (σ × Rest es) := do
  let visited ← visit s tag hasBody es
  let rest ←
    if hasBody && !visited.consumed then
      (skipToEnd fault 0 visited.rest.1).map visited.rest.within
    else .ok visited.rest
  return (visited.state, rest)

/-- Hands the direct children of an element, whose start tag has just been read, to a visitor. -/
def forEachChild (visit : Visitor σ) (s : σ) (es : List Xml.Event) :
    Except ReadError (σ × Rest es) :=
  match es with
  | [] => (atEnd fault).map fun _ => (s, ⟨[], Nat.le_refl _⟩)
  | .close :: es => .ok (s, ⟨es, Nat.le_succ _⟩)
  | .other :: es => (forEachChild visit s es).map fun (s, rest) => (s, rest.behind .other)
  | .empty tag :: es => do
    let (s, behind) ← takeUp fault visit s tag false es
    let (s, rest) ← forEachChild visit s behind.1
    return (s, (behind.within rest).behind (.empty tag))
  | .start tag :: es => do
    let (s, behind) ← takeUp fault visit s tag true es
    let (s, rest) ← forEachChild visit s behind.1
    return (s, (behind.within rest).behind (.start tag))
termination_by es.length
decreasing_by
  · exact Nat.lt_succ_self _
  · exact Nat.lt_succ_of_le behind.2
  · exact Nat.lt_succ_of_le behind.2

/-- Reads the body of an element with a visitor of its children; an element without a body has
none. -/
def readBody (visit : Visitor σ) (s : σ) : BodyReader σ := fun hasBody es =>
  if hasBody then forEachChild fault visit s es else .ok (s, .whole es)

/-- Reads each child with the name, and passes the others. -/
def Visitor.named {α : Type} (name : String) (read : Tag → BodyReader α) (add : σ → α → σ) :
    Visitor σ := fun s tag hasBody es =>
  if tag.name = name then (read tag hasBody es).map fun (a, rest) => ⟨add s a, true, rest⟩
  else .ok ⟨s, false, .whole es⟩

/-- Looks at the tag of each child with the name. -/
def Visitor.namedTag (name : String) (step : σ → Tag → Except ReadError σ) : Visitor σ :=
  .ofTag fun s tag => if tag.name = name then step s tag else .ok s

/-- The values of the children with the name, in order. -/
def readAll {α : Type} (name : String) (read : Tag → BodyReader α) : BodyReader (List α) :=
  readBody fault (.named name read fun found a => found ++ [a]) []

end

end Reading
end ClusterCodec

import ClusterCodec.Proofs.DocumentTree
import ClusterCodec.Reading.ClusterDocument

/-!
# TreeReading — one pass over the events computes a recursion over the tree

- `fieldIn`, `enumIn`, `attributeIn`, `commandIn` and so on: the readers as functions of an element.
- `gives_readField`, `gives_readEnum` and so on: each reader of events computes its function and
  stops behind the element, one lemma for each reader.
- `follows_visitSection`: so does the visitor of the sections.
- `readRoot_start`: the cluster of a document is the one of the tree of its root.
-/

namespace ClusterCodec
namespace Reading

open Xml

/-! ## The recursion over the tree -/

def qualifiedIn (field : Field) (body : Option (List Node)) : Except ReadError Field :=
  (childrenOf body).foldlM (fun field child => qualify field child.1) field

def fieldIn (e : Element) : Except ReadError Field := do
  let field ← fieldTag e.1
  qualifiedIn field e.2

def fieldsIn (body : Option (List Node)) : Except ReadError (List Field) :=
  (elementsNamed "field" body).mapM fieldIn

def enumIn (e : Element) : Except ReadError EnumDecl := do
  let name ← nameOf e.1
  (childrenOf e.2).foldlM (fun d child =>
    if child.1.name = "item" then addItem d child.1 else .ok d) { name }

def bitmapIn (e : Element) : Except ReadError BitmapDecl := do
  let name ← nameOf e.1
  (childrenOf e.2).foldlM (fun d child =>
    if child.1.name = "bitfield" then addFlag d child.1 else .ok d) { name }

def structIn (e : Element) : Except ReadError StructDecl := do
  let name ← nameOf e.1
  let fields ← fieldsIn e.2
  return { name, fields }

def addDataType (c : Cluster) (e : Element) : Except ReadError Cluster :=
  if e.1.name = "enum" then (enumIn e).map fun d => { c with enums := c.enums.insert d }
  else if e.1.name = "bitmap" then
    (bitmapIn e).map fun d => { c with bitmaps := c.bitmaps.insert d }
  else if e.1.name = "struct" then
    (structIn e).map fun d => { c with structs := c.structs.insert d }
  else .ok c

def attributeIn (e : Element) : Except ReadError Attribute := do
  let a ← attributeTag e.1
  let field ← qualifiedIn a.field e.2
  return { a with field }

def commandIn (e : Element) : Except ReadError Declared := do
  let d ← commandTag e.1
  let fields ← fieldsIn e.2
  return { d with command := { d.command with fields } }

def eventIn (e : Element) : Except ReadError ClusterCodec.Event := do
  let event ← eventTag e.1
  let fields ← fieldsIn e.2
  return { event with fields }

def addSection (c : Cluster) (e : Element) : Except ReadError Cluster :=
  if e.2.isNone then .ok c
  else if e.1.name = "dataTypes" then (childrenOf e.2).foldlM addDataType c
  else if e.1.name = "attributes" then
    ((elementsNamed "attribute" e.2).mapM attributeIn).map fun attributes => { c with attributes }
  else if e.1.name = "commands" then
    ((elementsNamed "command" e.2).mapM commandIn).map fun declared =>
      { c with
        commands := c.commands ++ clientCommands declared
        responses := c.responses ++ serverResponses declared }
  else if e.1.name = "events" then
    ((elementsNamed "event" e.2).mapM eventIn).map fun events => { c with events }
  else .ok c

/-- The cluster that a root element describes. -/
def clusterIn (root : Element) : Except ReadError Cluster := do
  let header ← headerTag root.1
  (childrenOf root.2).foldlM addSection header

/-! ## One pass over the events -/

section

variable {fault : Option Fault} {σ α β : Type}

theorem gives_bind {read : α → BodyReader β} {of : α → Option (List Node) → Except ReadError β}
    (start : Except ReadError α) (gives : ∀ a, (read a).Gives fault (of a)) :
    BodyReader.Gives fault (fun hasBody es => do let a ← start; read a hasBody es)
      (fun body => do let a ← start; of a body) := by
  intro hasBody es
  cases start with
  | error e => rfl
  | ok a => exact gives a hasBody es

theorem gives_map {read : BodyReader α} {of : Option (List Node) → Except ReadError α} (f : α → β)
    (gives : read.Gives fault of) :
    BodyReader.Gives fault (fun hasBody es => do
      let (a, rest) ← read hasBody es
      return (f a, rest)) fun body => do let a ← of body; return f a := by
  intro hasBody es
  dsimp only
  rw [gives]
  cases of (bodyIn hasBody es) with
  | error e => rfl
  | ok a => cases restIn fault hasBody es <;> rfl

theorem gives_readQualified (field : Field) :
    (readQualified fault field).Gives fault (qualifiedIn field) :=
  gives_readBody (follows_ofTag qualify) field

theorem gives_readField (tag : Tag) :
    (readField fault tag).Gives fault fun body => fieldIn (tag, body) :=
  gives_bind _ gives_readQualified

theorem gives_readFields : (readFields fault).Gives fault fieldsIn :=
  gives_readAll gives_readField

theorem gives_readEnum (tag : Tag) :
    (readEnum fault tag).Gives fault fun body => enumIn (tag, body) :=
  gives_bind _ fun _ => gives_readBody (follows_ofTag _) _

theorem gives_readBitmap (tag : Tag) :
    (readBitmap fault tag).Gives fault fun body => bitmapIn (tag, body) :=
  gives_bind _ fun _ => gives_readBody (follows_ofTag _) _

theorem gives_readStruct (tag : Tag) :
    (readStruct fault tag).Gives fault fun body => structIn (tag, body) :=
  gives_bind _ fun name => gives_map (fun fields => ({ name, fields } : StructDecl)) gives_readFields

theorem gives_readAttribute (tag : Tag) :
    (readAttribute fault tag).Gives fault fun body => attributeIn (tag, body) :=
  gives_bind _ fun a : Attribute =>
    gives_map (fun field => { a with field }) (gives_readQualified a.field)

theorem gives_readCommand (tag : Tag) :
    (readCommand fault tag).Gives fault fun body => commandIn (tag, body) :=
  gives_bind _ fun d : Declared =>
    gives_map (fun fields => { d with command := { d.command with fields } }) gives_readFields

theorem gives_readEvent (tag : Tag) :
    (readEvent fault tag).Gives fault fun body => eventIn (tag, body) :=
  gives_bind _ fun event : ClusterCodec.Event =>
    gives_map (fun fields => { event with fields }) gives_readFields

theorem follows_visitDataType : (visitDataType fault).Follows fault addDataType := by
  intro c tag hasBody es
  unfold addDataType
  dsimp only
  split_ifs with enum bitmap struct
  · refine takeUp_of_gives (gives_readEnum tag) _ ?_
    rw [visitDataType, if_pos enum]
  · refine takeUp_of_gives (gives_readBitmap tag) _ ?_
    rw [visitDataType, if_neg enum, if_pos bitmap]
  · refine takeUp_of_gives (gives_readStruct tag) _ ?_
    rw [visitDataType, if_neg enum, if_neg bitmap, if_pos struct]
  · -- An element of another name is not read.
    refine takeUp_of_unread ?_
    rw [visitDataType, if_neg enum, if_neg bitmap, if_neg struct]

theorem follows_visitSection : (visitSection fault).Follows fault addSection := by
  intro c tag hasBody es
  cases hasBody with
  | false => exact takeUp_of_unread rfl
  | true =>
      have present : ¬ (!true) = true := by decide
      have body : ¬ (bodyIn true es).isNone = true := Bool.false_ne_true
      unfold addSection
      dsimp only
      rw [if_neg body]
      split_ifs with dataTypes attributes commands events
      · -- The declarations change the cluster themselves, so nothing is left to be done with them.
        have same : ∀ x : Except ReadError Cluster, x.map id = x := fun x => by cases x <;> rfl
        rw [← same ((childrenOf _).foldlM addDataType c)]
        refine takeUp_of_gives (gives_readBody follows_visitDataType c) id ?_
        rw [visitSection, if_neg present, if_pos dataTypes]
        rfl
      · refine takeUp_of_gives (gives_readAll gives_readAttribute) _ ?_
        rw [visitSection, if_neg present, if_neg dataTypes, if_pos attributes]
      · refine takeUp_of_gives (gives_readAll gives_readCommand) _ ?_
        rw [visitSection, if_neg present, if_neg dataTypes, if_neg attributes, if_pos commands]
      · refine takeUp_of_gives (gives_readAll gives_readEvent) _ ?_
        rw [visitSection, if_neg present, if_neg dataTypes, if_neg attributes, if_neg commands,
          if_pos events]
      · refine takeUp_of_unread ?_
        rw [visitSection, if_neg present, if_neg dataTypes, if_neg attributes, if_neg commands,
          if_neg events]

/-! ## The root -/

theorem readRoot_start (tag : Tag) (es : List Xml.Event) :
    readRoot fault (.start tag :: es) = do
      let c ← clusterIn (tag, some (bodyOf es).1)
      let _ ← restAfter fault es
      return c := by
  rw [readRoot, clusterIn]
  cases headerTag tag with
  | error e => rfl
  | ok header =>
      simp only [ok_bind, forEachChild_eq follows_visitSection]
      have children : childrenOf (some (bodyOf es).1) = elementsOf (bodyOf es).1 := rfl
      rw [children]
      cases (elementsOf (bodyOf es).1).foldlM addSection header with
      | error e => rfl
      | ok c => cases restAfter fault es <;> rfl

theorem readRoot_empty (tag : Tag) (es : List Xml.Event) :
    readRoot fault (.empty tag :: es) = clusterIn (tag, none) := by
  rw [readRoot, clusterIn]
  cases headerTag tag <;> rfl

end

end Reading
end ClusterCodec

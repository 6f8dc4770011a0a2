import ClusterCodec.Reading.ElementTag
import ClusterCodec.Reading.Visit

/-!
# ClusterDocument — a cluster from its document

- `readField`, `readEnum`, `readCommand` and so on: an element and its children, read in one pass
  over the events.
- `visitSection`: takes up a section of the cluster.
- `Cluster.ofStream`: the cluster that the events of a document describe.
- `Cluster.ofText`: the same from the text of the document.

Only the direct children of a section and of a declaration count; elements of other names are passed
with everything inside them. A section that is an empty element counts as absent. Of several
attribute sections the last one counts, likewise of several event sections; the data types and the
commands of all their sections count.
-/

namespace ClusterCodec
namespace Reading

open Xml

section

variable (fault : Option Fault)

/-! ## Fields -/

def readQualified (field : Field) : BodyReader Field :=
  readBody fault (.ofTag qualify) field

def readField (tag : Tag) : BodyReader Field := fun hasBody es => do
  let field ← fieldTag tag
  readQualified fault field hasBody es

def readFields : BodyReader (List Field) :=
  readAll fault "field" (readField fault)

/-! ## Type declarations -/

def readEnum (tag : Tag) : BodyReader EnumDecl := fun hasBody es => do
  let name ← nameOf tag
  readBody fault (.namedTag "item" addItem) { name } hasBody es

def readBitmap (tag : Tag) : BodyReader BitmapDecl := fun hasBody es => do
  let name ← nameOf tag
  readBody fault (.namedTag "bitfield" addFlag) { name } hasBody es

def readStruct (tag : Tag) : BodyReader StructDecl := fun hasBody es => do
  let name ← nameOf tag
  let (fields, rest) ← readFields fault hasBody es
  return ({ name, fields }, rest)

def visitDataType : Visitor Cluster := fun c tag hasBody es =>
  if tag.name = "enum" then
    (readEnum fault tag hasBody es).map fun (e, rest) =>
      ⟨{ c with enums := c.enums.insert e }, true, rest⟩
  else if tag.name = "bitmap" then
    (readBitmap fault tag hasBody es).map fun (b, rest) =>
      ⟨{ c with bitmaps := c.bitmaps.insert b }, true, rest⟩
  else if tag.name = "struct" then
    (readStruct fault tag hasBody es).map fun (s, rest) =>
      ⟨{ c with structs := c.structs.insert s }, true, rest⟩
  else .ok ⟨c, false, .whole es⟩

/-! ## Attributes, commands and events -/

def readAttribute (tag : Tag) : BodyReader Attribute := fun hasBody es => do
  let a ← attributeTag tag
  let (field, rest) ← readQualified fault a.field hasBody es
  return ({ a with field }, rest)

def readCommand (tag : Tag) : BodyReader Declared := fun hasBody es => do
  let d ← commandTag tag
  let (fields, rest) ← readFields fault hasBody es
  return ({ d with command := { d.command with fields } }, rest)

def readEvent (tag : Tag) : BodyReader ClusterCodec.Event := fun hasBody es => do
  let e ← eventTag tag
  let (fields, rest) ← readFields fault hasBody es
  return ({ e with fields }, rest)

/-! ## The cluster -/

def visitSection : Visitor Cluster := fun c tag hasBody es =>
  if !hasBody then .ok ⟨c, false, .whole es⟩
  else if tag.name = "dataTypes" then
    (readBody fault (visitDataType fault) c hasBody es).map fun (c, rest) => ⟨c, true, rest⟩
  else if tag.name = "attributes" then
    (readAll fault "attribute" (readAttribute fault) hasBody es).map fun (attributes, rest) =>
      ⟨{ c with attributes }, true, rest⟩
  else if tag.name = "commands" then
    (readAll fault "command" (readCommand fault) hasBody es).map fun (declared, rest) =>
      ⟨{ c with
          commands := c.commands ++ clientCommands declared
          responses := c.responses ++ serverResponses declared }, true, rest⟩
  else if tag.name = "events" then
    (readAll fault "event" (readEvent fault) hasBody es).map fun (events, rest) =>
      ⟨{ c with events }, true, rest⟩
  else .ok ⟨c, false, .whole es⟩

/-- The cluster of the first element. Nothing behind the end of that element is looked at. -/
def readRoot : List Xml.Event → Except ReadError Cluster
  | [] =>
    match fault with
    | some fault => .error (.markup fault)
    | none => .error (.missingElement "cluster")
  | .start tag :: es => do
    let header ← headerTag tag
    let (c, _) ← forEachChild fault (visitSection fault) header es
    return c
  | .empty tag :: _ => headerTag tag
  | .close :: es | .other :: es => readRoot es

end

end Reading

open Reading Xml

/-- The cluster that the events of a document describe. The first fault counts, be it of the content
or of the markup. -/
def Cluster.ofStream (stream : Stream) : Except ReadError Cluster :=
  readRoot stream.fault stream.events

def Cluster.ofText (text : String) : Except ReadError Cluster :=
  Cluster.ofStream (Stream.ofText text)

end ClusterCodec

import ClusterCodec.Reading.Visit
import ClusterCodec.Schema.Cluster
import ClusterCodec.Xml.Reference
import ClusterCodec.Xml.Tag

/-!
# ElementTag — what the tags of a cluster document say

- `attribute?`, `foldAttributes`: the attributes of a tag with their values.
- `fieldTag`, `attributeTag`, `commandTag`, `eventTag`, `headerTag`: what an element is before its
  body is read.
- `qualify`, `addItem`, `addFlag`: the children that consist of a tag alone.
- `clientCommands`, `serverResponses`: what becomes of the commands of a section.
-/

namespace ClusterCodec
namespace Reading

open Xml

def valueOf (raw : String) : Except ReadError String :=
  (resolve raw).mapError .markup

/-- The value of an attribute, if the tag has it. -/
def attribute? (tag : Tag) (key : String) : Except ReadError (Option String) :=
  match tag.attributes.lookup key with
  | none => .ok none
  | some raw => some <$> valueOf raw

/-- Goes through all attributes of a tag in order, with their values. -/
def foldAttributes {σ : Type} (tag : Tag) (init : σ)
    (step : σ → String → String → Except ReadError σ) : Except ReadError σ :=
  tag.attributes.foldlM (fun s (key, raw) => do step s key (← valueOf raw)) init

/-- The name of a declaration. -/
def nameOf (tag : Tag) : Except ReadError String :=
  return (← attribute? tag "name").getD unknownName

/-! ## Fields -/

/-- The type of a field that declares none. -/
def unknownType : String := "uint8"

def isTrue (text : String) : Bool :=
  text.toList.map Char.toLower == "true".toList

/-- Takes up one child of a field or an attribute. -/
def qualify (field : Field) (tag : Tag) : Except ReadError Field := do
  if tag.name = "entry" then
    return { field with entryType := ← attribute? tag "type" }
  else if tag.name = "quality" then
    return { field with nullable := (← attribute? tag "nullable").any isTrue }
  else if tag.name = "mandatoryConform" then
    return { field with mandatory := true }
  else return field

def fieldAttribute (field : Field) (key value : String) : Except ReadError Field :=
  if key = "id" then
    match Text.Numeral.readBelow 8 value with
    | some id => .ok { field with id := UInt8.ofNat id }
    | none => .error (.invalidAttribute "field" "id" value)
  else if key = "name" then .ok { field with name := value }
  else if key = "type" then .ok { field with typeName := value }
  else if key = "default" then .ok { field with defaultText := some value }
  else .ok field

def fieldTag (tag : Tag) : Except ReadError Field :=
  foldAttributes tag ⟨0, unknownName, unknownType, none, none, false, false⟩ fieldAttribute

/-! ## Type declarations -/

def addItem (e : EnumDecl) (item : Tag) : Except ReadError EnumDecl := do
  let value := ((← attribute? item "value").bind Text.Numeral.readNat).getD 0
  let name ← nameOf item
  let summary := (← attribute? item "summary").getD ""
  return e.addItem (UInt64.ofNat value) name summary

/-- A flag without a usable position is passed. -/
def addFlag (b : BitmapDecl) (flag : Tag) : Except ReadError BitmapDecl := do
  match (← attribute? flag "bit").bind (Text.Numeral.readBelow 32) with
  | none => return b
  | some position =>
    let name ← nameOf flag
    let summary := (← attribute? flag "summary").getD ""
    return b.addFlag (UInt32.ofNat position) name summary

/-! ## Attributes -/

def attributeAttribute (a : Attribute) (key value : String) : Except ReadError Attribute :=
  if key = "id" then .ok { a with id := value }
  else if key = "name" then .ok { a with field := { a.field with name := value } }
  else if key = "type" then .ok { a with field := { a.field with typeName := value } }
  else if key = "default" then .ok { a with field := { a.field with defaultText := some value } }
  else .ok a

def attributeTag (tag : Tag) : Except ReadError Attribute :=
  foldAttributes tag ⟨"0x0000", ⟨0, unknownName, unknownType, none, none, false, true⟩⟩
    attributeAttribute

/-! ## Commands -/

/-- A command of any direction. -/
structure Declared where
  direction : Direction
  command : Command
  deriving Repr, DecidableEq

def commandAttribute (d : Declared) (key value : String) : Except ReadError Declared :=
  if key = "id" then .ok { d with command := { d.command with id := value } }
  else if key = "name" then .ok { d with command := { d.command with name := value } }
  else if key = "direction" then .ok { d with direction := .ofText value }
  else .ok d

def commandTag (tag : Tag) : Except ReadError Declared :=
  foldAttributes tag ⟨.toServer, ⟨"0x00", unknownName, []⟩⟩ commandAttribute

/-- The ending of a command that takes its fields from the command without it. -/
def inheritedSuffix : String := "WithOnOff"

/-- The name without any occurrence of the ending. -/
def baseName (name : String) : String :=
  String.ofList (Text.replaceAll inheritedSuffix.toList [] name.toList)

/-- A client command without fields and with the inherited ending takes the fields of the first
command of its section that bears the base name. -/
def withInheritedFields (inSection : List Declared) (c : Command) : Command :=
  if c.fields.isEmpty && hasSuffix inheritedSuffix c.name then
    -- The command may stand after `c`, and its direction does not matter.
    match inSection.find? (·.command.name == baseName c.name) with
    | some base => { c with fields := base.command.fields }
    | none => c
  else c

def clientCommands (inSection : List Declared) : List Command :=
  (inSection.filter (·.direction == .toServer)).map fun d => withInheritedFields inSection d.command

def serverResponses (inSection : List Declared) : List Response :=
  (inSection.filter (·.direction == .fromServer)).map fun d =>
    ⟨d.command.id, d.command.name, d.command.fields⟩

/-! ## Events -/

def eventAttribute (e : ClusterCodec.Event) (key value : String) :
    Except ReadError ClusterCodec.Event :=
  if key = "id" then .ok { e with id := value }
  else if key = "name" then .ok { e with name := value }
  else if key = "priority" then .ok { e with priority := value }
  else .ok e

def eventTag (tag : Tag) : Except ReadError ClusterCodec.Event :=
  foldAttributes tag ⟨"0x00", unknownName, "info", []⟩ eventAttribute

/-! ## The root -/

/-- The id and the name of the root as written. -/
def headerAttribute (header : String × String) (key value : String) :
    Except ReadError (String × String) :=
  if key = "id" then .ok (value, header.2)
  else if key = "name" then .ok (header.1, value)
  else .ok header

/-- The cluster of the root before its sections are read. The name of the root does not matter. -/
def headerTag (tag : Tag) : Except ReadError Cluster := do
  let (idText, name) ← foldAttributes tag ("0x0000", unknownName) headerAttribute
  return .ofHeader idText name

end Reading
end ClusterCodec

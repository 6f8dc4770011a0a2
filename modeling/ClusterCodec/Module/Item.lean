import ClusterCodec.Schema.Cluster

/-!
# Item — what a generated module is made of

- `ItemKind`: the kinds, in the order of their sections.
- `Item`: a declaration or an element of a cluster.
- `Cluster.items`: all items, kind by kind, in declaration order.
-/

namespace ClusterCodec

inductive ItemKind where
  | enum
  | bitmap
  | struct
  | command
  | attr
  | response
  | event
  deriving Repr, DecidableEq

namespace ItemKind

/-- All kinds in the order of their sections. -/
def all : List ItemKind := [enum, bitmap, struct, command, attr, response, event]

/-- The kind in a report. -/
def text : ItemKind → String
  | enum => "enum"
  | bitmap => "bitmap"
  | struct => "struct"
  | command => "command"
  | attr => "attribute"
  | response => "command response"
  | event => "event"

def sectionTitle : ItemKind → String
  | enum => "Enum definitions"
  | bitmap => "Bitmap definitions"
  | struct => "Struct definitions"
  | command => "Command encoders"
  | attr => "Attribute decoders"
  | response => "Command response decoders"
  | event => "Event decoders"

end ItemKind

inductive Item where
  | enum (decl : EnumDecl)
  | bitmap (decl : BitmapDecl)
  | struct (decl : StructDecl)
  | command (command : Command)
  | attr (attr : Attribute)
  | response (response : Response)
  | event (event : Event)
  deriving Repr, DecidableEq

namespace Item

def kind : Item → ItemKind
  | enum _ => .enum
  | bitmap _ => .bitmap
  | struct _ => .struct
  | command _ => .command
  | attr _ => .attr
  | response _ => .response
  | event _ => .event

/-- The name in the document. -/
def name : Item → String
  | enum e => e.name
  | bitmap b => b.name
  | struct s => s.name
  | command c => c.name
  | attr a => a.name
  | response r => r.name
  | event e => e.name

end Item

def Cluster.items (c : Cluster) : List Item :=
  c.enums.toList.map .enum ++ c.bitmaps.toList.map .bitmap ++ c.structs.toList.map .struct ++
    c.commands.map .command ++ c.attributes.map .attr ++ c.responses.map .response ++
    c.events.map .event

end ClusterCodec

import ClusterCodec.Schema.Declaration
import ClusterCodec.Text.Numeral

/-!
# Cluster — attributes, commands, responses and events, and the cluster that owns them

- `Attribute`, `Command`, `Response`, `Event`: the elements and the names of their generated code.
- `Direction`: who sends a command.
- `Cluster`: the elements and the type declarations of one document.
-/

namespace ClusterCodec

open Name

/-- The name of an element that declares none. -/
def unknownName : String := "Unknown"

/-! ## Attributes -/

structure Attribute where
  /-- The id as written. -/
  id : String
  /-- The type information; the context tag is not used. -/
  field : Field
  deriving Repr, DecidableEq

namespace Attribute

def name (a : Attribute) : String :=
  a.field.name

def numericId? (a : Attribute) : Option UInt32 :=
  (Text.Numeral.readBelow 32 a.id).map UInt32.ofNat

/-- The name of the generated decoder. -/
def decoder (a : Attribute) : String :=
  "decode_" ++ a.field.ident

end Attribute

/-! ## Commands and responses -/

inductive Direction where
  | toServer
  | fromServer
  | other (text : String)
  deriving Repr, DecidableEq

def Direction.ofText (text : String) : Direction :=
  if text = "commandToServer" then .toServer
  else if text = "responseFromServer" then .fromServer
  else .other text

/-- A request of a client. -/
structure Command where
  id : String
  name : String
  fields : List Field := []
  deriving Repr, DecidableEq

namespace Command

/-- The name of the generated encoder. -/
def encoder (c : Command) : String :=
  "encode_" ++ Identifier.ofField c.name

/-- The type that holds the parameters when they are many. -/
def paramsType (c : Command) : String :=
  Identifier.ofType (pascal c.name) "" true ++ "Params"

end Command

/-- An answer of a server. -/
structure Response where
  id : String
  name : String
  fields : List Field := []
  deriving Repr, DecidableEq

namespace Response

def typeName (r : Response) : String :=
  Identifier.ofType (pascal r.name) "" true

def decoder (r : Response) : String :=
  "decode_" ++ Identifier.ofField r.name

end Response

/-! ## Events -/

structure Event where
  id : String
  name : String
  priority : String
  fields : List Field := []
  deriving Repr, DecidableEq

namespace Event

def typeName (e : Event) : String :=
  Identifier.ofType (pascal e.name) "" true ++ "Event"

def decoder (e : Event) : String :=
  "decode_" ++ Identifier.ofField e.name ++ "_event"

end Event

/-! ## Clusters -/

structure Cluster where
  id : UInt32
  /-- The id as written. -/
  idText : String
  name : String
  commands : List Command := []
  responses : List Response := []
  attributes : List Attribute := []
  events : List Event := []
  structs : SymbolTable StructDecl := ∅
  enums : SymbolTable EnumDecl := ∅
  bitmaps : SymbolTable BitmapDecl := ∅

namespace Cluster

/-- A cluster without elements. An id that is no 32-bit number counts as zero. -/
def ofHeader (idText name : String) : Cluster :=
  { id := UInt32.ofNat ((Text.Numeral.readBelow 32 idText).getD 0), idText, name }

def hasAttributes (c : Cluster) : Bool :=
  !c.attributes.isEmpty

end Cluster
end ClusterCodec

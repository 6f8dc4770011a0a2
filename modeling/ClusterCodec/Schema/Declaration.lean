import ClusterCodec.Schema.Field
import ClusterCodec.Schema.SymbolTable

/-!
# Declaration — enums, bitmaps and structs

- `EnumDecl`: named values; `EnumDecl.repr` is the narrowest integer that holds them.
- `BitmapDecl`: named bit positions; `BitmapDecl.baseType` is the integer they lie in.
- `StructDecl`: named fields.

A declaration's type name drops the category suffix of its source name; enums and bitmaps may be
made to keep it.
-/

namespace ClusterCodec

/-! ## Enums -/

structure EnumItem where
  value : UInt64
  name : String
  /-- The identifier of the variant. -/
  variant : String
  summary : String
  deriving Repr, DecidableEq

structure EnumDecl where
  name : String
  items : List EnumItem := []
  keepSuffix : Bool := false
  deriving Repr, DecidableEq

namespace EnumDecl

instance : Named EnumDecl := ⟨EnumDecl.name⟩

def addItem (e : EnumDecl) (value : UInt64) (name summary : String) : EnumDecl :=
  { e with items := e.items ++ [⟨value, name, Name.Identifier.ofVariant name, summary⟩] }

def typeName (e : EnumDecl) : String :=
  Name.Identifier.ofType e.name enumSuffix e.keepSuffix

/-- The greatest value, or zero. -/
def greatest (e : EnumDecl) : Nat :=
  (e.items.map (·.value.toNat)).foldl max 0

/-- The narrowest unsigned type that holds every value. -/
def repr (e : EnumDecl) : IntType :=
  .unsignedFor e.greatest

end EnumDecl

/-! ## Bitmaps -/

structure BitFlag where
  position : UInt32
  name : String
  /-- The identifier of the constant. -/
  constant : String
  summary : String
  deriving Repr, DecidableEq

/-- The value of the flag, unless it lies outside 64 bits. -/
def BitFlag.mask? (f : BitFlag) : Option Nat :=
  if f.position.toNat < 64 then some (1 <<< f.position.toNat) else none

structure BitmapDecl where
  name : String
  flags : List BitFlag := []
  keepSuffix : Bool := false
  deriving Repr, DecidableEq

namespace BitmapDecl

instance : Named BitmapDecl := ⟨BitmapDecl.name⟩

def addFlag (b : BitmapDecl) (position : UInt32) (name summary : String) : BitmapDecl :=
  { b with flags := b.flags ++ [⟨position, name, Name.Identifier.ofConstant name, summary⟩] }

def typeName (b : BitmapDecl) : String :=
  Name.Identifier.ofType b.name bitmapSuffix b.keepSuffix

/-- The module that holds the constants. -/
def moduleName (b : BitmapDecl) : String :=
  Name.Identifier.ofField b.typeName

/-- The highest position, or zero. -/
def highest (b : BitmapDecl) : Nat :=
  (b.flags.map (·.position.toNat)).foldl max 0

/-- The integer type that holds the positions; the widest one for all from 32 up. -/
def baseType (b : BitmapDecl) : IntType :=
  if b.highest < 8 then .u8
  else if b.highest < 16 then .u16
  else if b.highest < 32 then .u32
  else .u64

def wireTag (b : BitmapDecl) : WireTag :=
  .ofInt b.baseType

end BitmapDecl

/-! ## Structs -/

structure StructDecl where
  name : String
  fields : List Field := []
  deriving Repr, DecidableEq

namespace StructDecl

instance : Named StructDecl := ⟨StructDecl.name⟩

/-- Adds a field at the end. This is for callers that build a struct themselves: a document gives all
fields of a struct at once. -/
def addField (s : StructDecl) (f : Field) : StructDecl :=
  { s with fields := s.fields ++ [f] }

/-- The type name, always without the suffix. -/
def typeName (s : StructDecl) : String :=
  Name.Identifier.ofType s.name structSuffix false

end StructDecl
end ClusterCodec

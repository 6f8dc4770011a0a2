import ClusterCodec.Wire.Tag

/-!
# TypeTable — the named types of the schema language

- `typeTable`: for each named type its encoding and its scalar.
- `typeRow?`: look-up by name.
- `fallbackTag`, `fallbackScalar`: what a name outside the table stands for.
- `isIntegerType`: whether the table maps a name to an integer.
-/

namespace ClusterCodec

/-- The name of the list type. -/
def listType : String := "list"

structure TypeRow where
  name : String
  tag : WireTag
  /-- Absent for the list type, whose elements decide. -/
  scalar : Option Scalar
  deriving Repr, DecidableEq

private def intRow (name : String) (type : IntType) : TypeRow :=
  ⟨name, .ofInt type, some (.int type)⟩

def typeTable : List TypeRow := [
  intRow "uint8" .u8,
  intRow "uint16" .u16,
  intRow "uint32" .u32,
  intRow "uint64" .u64,
  intRow "int8" .i8,
  intRow "int16" .i16,
  intRow "int32" .i32,
  intRow "int64" .i64,
  ⟨"bool", .bool, some .bool⟩,
  ⟨"string", .string, some .string⟩,
  intRow "epoch-s" .u64,
  intRow "epoch-us" .u64,
  intRow "elapsed-s" .u32,
  intRow "power-mW" .u32,
  intRow "energy-mWh" .u64,
  intRow "temperature" .i16,
  ⟨"octstr", .octetString, some .bytes⟩,
  ⟨listType, .structAnon, none⟩,
  intRow "devtype-id" .u32,
  intRow "cluster-id" .u32,
  intRow "endpoint-no" .u16,
  intRow "node-id" .u64,
  intRow "vendor-id" .u16,
  intRow "subject-id" .u64,
  intRow "SubjectID" .u64,
  intRow "attribute-id" .u32,
  intRow "enum8" .u8,
  intRow "enum16" .u16,
  intRow "bitmap8" .u8,
  intRow "bitmap16" .u16,
  intRow "bitmap32" .u32
]

def fallbackTag : WireTag := .uint8

def fallbackScalar : Scalar := .int .u8

def typeRow? (name : String) : Option TypeRow :=
  typeTable.find? (·.name == name)

/-- Whether the table maps the name to a fixed-width integer. Only callers of the library ask this:
what is generated depends on the rows themselves. -/
def isIntegerType (name : String) : Bool :=
  typeTable.any fun row =>
    row.name == name && match row.scalar with
      | some (.int _) => true
      | _ => false

end ClusterCodec

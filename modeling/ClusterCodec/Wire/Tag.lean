import ClusterCodec.Wire.IntType

/-!
# Tag — the encodings of a value on the wire

- `WireTag`: the encodings, one for each integer type and four more.
- `WireTag.ofInt`, `WireTag.int?`: encodings and integer types.
- `Scalar`: the scalar types of the generated source.
-/

namespace ClusterCodec

inductive WireTag where
  | uint8 | uint16 | uint32 | uint64
  | int8 | int16 | int32 | int64
  | bool
  | string
  | octetString
  /-- A compound without a tag of its own; lists are written so. -/
  | structAnon
  deriving Repr, DecidableEq

namespace WireTag

/-- The encoding as the generated source names it. -/
def text : WireTag → String
  | uint8 => "UInt8"
  | uint16 => "UInt16"
  | uint32 => "UInt32"
  | uint64 => "UInt64"
  | int8 => "Int8"
  | int16 => "Int16"
  | int32 => "Int32"
  | int64 => "Int64"
  | bool => "Bool"
  | string => "String"
  | octetString => "OctetString"
  | structAnon => "StructAnon"

/-- The integer type that the encoding carries. -/
def int? : WireTag → Option IntType
  | uint8 => some .u8
  | uint16 => some .u16
  | uint32 => some .u32
  | uint64 => some .u64
  | int8 => some .i8
  | int16 => some .i16
  | int32 => some .i32
  | int64 => some .i64
  | bool | string | octetString | structAnon => none

/-- The encoding that carries an integer type. -/
def ofInt : IntType → WireTag
  | .u8 => uint8
  | .u16 => uint16
  | .u32 => uint32
  | .u64 => uint64
  | .i8 => int8
  | .i16 => int16
  | .i32 => int32
  | .i64 => int64

end WireTag

/-- The scalar types of the generated source. -/
inductive Scalar where
  | int (type : IntType)
  | bool
  | string
  | bytes
  deriving Repr, DecidableEq

def Scalar.text : Scalar → String
  | .int type => type.text
  | .bool => "bool"
  | .string => "String"
  | .bytes => "Vec<u8>"

end ClusterCodec

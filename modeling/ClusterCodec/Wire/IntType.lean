/-!
# IntType — fixed-width integers

- `IntType`: width and sign.
- `IntType.unsignedFor`: the narrowest unsigned type for a value.
- `IntType.least`, `IntType.greatest`: the range.
-/

namespace ClusterCodec

inductive IntType where
  | u8 | u16 | u32 | u64 | i8 | i16 | i32 | i64
  deriving Repr, DecidableEq

namespace IntType

/-- The type as the generated source writes it. -/
def text : IntType → String
  | u8 => "u8"
  | u16 => "u16"
  | u32 => "u32"
  | u64 => "u64"
  | i8 => "i8"
  | i16 => "i16"
  | i32 => "i32"
  | i64 => "i64"

def isSigned : IntType → Bool
  | u8 | u16 | u32 | u64 => false
  | i8 | i16 | i32 | i64 => true

def bits : IntType → Nat
  | u8 | i8 => 8
  | u16 | i16 => 16
  | u32 | i32 => 32
  | u64 | i64 => 64

def least (t : IntType) : Int :=
  if t.isSigned then -(1 <<< (t.bits - 1) : Nat) else 0

def greatest (t : IntType) : Int :=
  if t.isSigned then ((1 <<< (t.bits - 1) : Nat) : Int) - 1 else ((1 <<< t.bits : Nat) : Int) - 1

def contains (t : IntType) (n : Int) : Bool :=
  t.least ≤ n && n ≤ t.greatest

/-- The narrowest unsigned type for a 64-bit value. -/
def unsignedFor (n : Nat) : IntType :=
  if n < 1 <<< 8 then u8
  else if n < 1 <<< 16 then u16
  else if n < 1 <<< 32 then u32
  else u64

end IntType
end ClusterCodec

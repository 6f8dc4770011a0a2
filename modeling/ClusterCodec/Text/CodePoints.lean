/-!
# CodePoints — tables of code points and look-up in them

- `Run`: every `step`-th code point of an interval.
- `Shift`: a run whose members move by one common offset.
- `inRanges`, `inRuns`, `shiftIn?`: look-up.
- `forall_of_toNat_lt`: a property of characters, checked for each code point.
-/

namespace ClusterCodec
namespace Text
namespace CodePoints

/-- Every `step`-th code point from `first` to `last`. -/
structure Run where
  first : Nat
  last : Nat
  step : Nat
  deriving Repr, DecidableEq

/-- Every `step`-th code point from `first` to `last`, each moved by `offset`. -/
structure Shift where
  first : Nat
  last : Nat
  step : Nat
  offset : Int
  deriving Repr, DecidableEq

def Run.has (r : Run) (n : Nat) : Bool :=
  r.first ≤ n && n ≤ r.last && (n - r.first) % r.step == 0

def Shift.has (r : Shift) (n : Nat) : Bool :=
  r.first ≤ n && n ≤ r.last && (n - r.first) % r.step == 0

def Shift.target (r : Shift) (n : Nat) : Nat :=
  (Int.ofNat n + r.offset).toNat

/-- Membership in a table of closed intervals. -/
def inRanges (table : List (Nat × Nat)) (c : Char) : Bool :=
  table.any fun r => r.1 ≤ c.toNat && c.toNat ≤ r.2

def inRuns (table : List Run) (c : Char) : Bool :=
  table.any (·.has c.toNat)

/-- The image of `c` under the first run that has it. -/
def shiftIn? (table : List Shift) (c : Char) : Option Char :=
  (table.find? (·.has c.toNat)).map fun r => Char.ofNat (r.target c.toNat)

/-- The characters below a bound are looked at number by number. -/
theorem forall_of_toNat_lt {bound : Nat} {P : Char → Prop} (each : ∀ n < bound, P (Char.ofNat n))
    {c : Char} (range : c.toNat < bound) : P c := by
  have holds := each c.toNat range
  rwa [Char.ofNat_toNat] at holds

end CodePoints
end Text
end ClusterCodec

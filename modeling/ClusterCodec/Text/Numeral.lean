import ClusterCodec.Text.Blank

/-!
# Numeral — reading and writing whole numbers

- `digitValue?`, `digitChar`: digits up to base 16.
- `readDigits`: digits below a limit, read from left to right; the first fault decides the error.
- `readWord`, `readNat`, `readBelow`: numbers below `2 ^ 64` or a smaller power of two; `readNat` takes
  a decimal number or one with a `0x` mark.
- `decimal`, `signedDecimal`, `hex`, `hexId`, `hexMask`: written forms.
-/

namespace ClusterCodec
namespace Text
namespace Numeral

inductive Fault where
  | empty
  | invalidDigit
  | tooLarge
  deriving Repr, DecidableEq

def Fault.message : Fault → String
  | .empty => "cannot parse integer from empty string"
  | .invalidDigit => "invalid digit found in string"
  | .tooLarge => "number too large to fit in target type"

/-! ## Reading -/

/-- The value of a digit of either letter case, if `base` has it. -/
def digitValue? (base : Nat) (c : Char) : Option Nat :=
  let value :=
    if '0' ≤ c && c ≤ '9' then some (c.toNat - '0'.toNat)
    else if 'a' ≤ c && c ≤ 'f' then some (c.toNat - 'a'.toNat + 10)
    else if 'A' ≤ c && c ≤ 'F' then some (c.toNat - 'A'.toNat + 10)
    else none
  value.filter (· < base)

/-- Continues a number with more digits. -/
def readDigitsFrom (base limit : Nat) (value : Nat) : List Char → Except Fault Nat
  | [] => .ok value
  | c :: cs =>
    match digitValue? base c with
    | none => .error .invalidDigit
    | some digit =>
      -- The first character that makes a fault decides which fault it is.
      let next := value * base + digit
      if next < limit then readDigitsFrom base limit next cs else .error .tooLarge

/-- A number below `limit`, written with one or more digits. -/
def readDigits (base limit : Nat) (cs : List Char) : Except Fault Nat :=
  if cs.isEmpty then .error .empty else readDigitsFrom base limit 0 cs

/-- A number below `2 ^ 64`, with an optional plus sign. -/
def readWord (base : Nat) (cs : List Char) : Option Nat :=
  let digits := match cs with
    | '+' :: rest => rest
    | _ => cs
  (readDigits base (1 <<< 64) digits).toOption

/-- Splits off a `0x` or `0X` mark. -/
def afterHexMark? : List Char → Option (List Char)
  | '0' :: 'x' :: rest => some rest
  | '0' :: 'X' :: rest => some rest
  | _ => none

/-- A number below `2 ^ 64` between optional blanks, hexadecimal after a `0x` mark and decimal
otherwise. -/
def readNat (s : String) : Option Nat :=
  let cs := trimBy isBlank s.toList
  match afterHexMark? cs with
  | some digits => readWord 16 digits
  | none => readWord 10 cs

/-- `readNat` for numbers below `2 ^ bits`. -/
def readBelow (bits : Nat) (s : String) : Option Nat :=
  (readNat s).filter (· < 1 <<< bits)

/-! ## Writing -/

def digitChar (upper : Bool) (digit : Nat) : Char :=
  if digit < 10 then Char.ofNat ('0'.toNat + digit)
  else Char.ofNat ((if upper then 'A' else 'a').toNat + (digit - 10))

/-- The digits of a number without leading zeros; zero has one digit. -/
def digits (base : Nat) (upper : Bool) (n : Nat) : List Char :=
  if n < base ∨ base < 2 then [digitChar upper n]
  else digits base upper (n / base) ++ [digitChar upper (n % base)]
termination_by n
decreasing_by exact Nat.div_lt_self (by omega) (by omega)

theorem mem_digits {base : Nat} (atLeastTwo : 2 ≤ base) {upper : Bool} {n : Nat} {c : Char}
    (h : c ∈ digits base upper n) : ∃ digit < base, c = digitChar upper digit := by
  fun_induction digits base upper n with
  | case1 n small =>
      exact ⟨n, by omega, List.mem_singleton.1 h⟩
  | case2 n large ih =>
      rcases List.mem_append.1 h with h | h
      · exact ih h
      · exact ⟨n % base, Nat.mod_lt _ (by omega), List.mem_singleton.1 h⟩

/-- Leading zeros up to a width. -/
def padded (width : Nat) (cs : List Char) : List Char :=
  List.replicate (width - cs.length) '0' ++ cs

def decimal (n : Nat) : String :=
  String.ofList (digits 10 false n)

theorem decimal_ne_empty (n : Nat) : decimal n ≠ "" := by
  have nonempty : digits 10 false n ≠ [] := by
    unfold digits
    split <;> simp
  intro empty
  exact nonempty (by simpa [decimal] using congrArg String.toList empty)

def signedDecimal (n : Int) : String :=
  match n with
  | .ofNat m => decimal m
  | .negSucc m => "-" ++ decimal (m + 1)

/-- Hexadecimal in small letters. -/
def hex (n : Nat) : String :=
  String.ofList (digits 16 false n)

/-- An id: `0x` and at least four hexadecimal digits in small letters. -/
def hexId (n : Nat) : String :=
  "0x" ++ String.ofList (padded 4 (digits 16 false n))

/-- An id consists of the mark and digits. -/
theorem mem_hexId {n : Nat} {c : Char} (h : c ∈ (hexId n).toList) :
    c ∈ "0x123456789abcdef".toList := by
  have digit : ∀ d < 16, digitChar false d ∈ "0x123456789abcdef".toList := by decide
  simp only [hexId, padded, String.toList_append, String.toList_ofList, List.mem_append] at h
  rcases h with mark | zero | h
  · exact List.mem_append_left _ mark
  · rw [List.eq_of_mem_replicate zero]
    decide
  · rcases mem_digits (by decide) h with ⟨d, small, rfl⟩
    exact digit d small

/-- A mask: `0x` and at least two hexadecimal digits in capital letters. -/
def hexMask (n : Nat) : String :=
  "0x" ++ String.ofList (padded 2 (digits 16 true n))

end Numeral
end Text
end ClusterCodec

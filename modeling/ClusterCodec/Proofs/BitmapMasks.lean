import ClusterCodec.Proofs.DistinctIdentifiers
import ClusterCodec.Proofs.EnumAgreement
import ClusterCodec.Proofs.ReadDeclarations

/-!
# BitmapMasks — the masks of a bitmap and the integer type that holds them

A flag may be declared at any 32-bit position, but only positions below 64 have a mask.

- `positions_bitmapOf`: the flags of a bitmap stand at the positions that its elements declare.
- `BitmapDecl.narrowest_baseType`: with all positions below 64 the integer type of a bitmap is the
  narrowest one for its masks; `BitmapDecl.baseType_of_high`: with another position it is the widest.
- `BitmapDecl.EmitsMasks`: the source text has one constant for each flag with a mask.
- `Cluster.masks_ofText`: all of that for the bitmaps of a document, declared and resolved.
-/

namespace ClusterCodec

open Text

/-! ## Positions -/

namespace Reading

open Xml

/-- The position that a tag declares, if it is a 32-bit number. -/
def position? (flag : Tag) : Option Nat :=
  (value? flag "bit").bind (Numeral.readBelow 32)

/-- The positions that the flags in a bitmap element declare. -/
def positionsIn (e : Element) : List Nat :=
  (elementsNamed "bitfield" e.2).filterMap (position? ·.1)

def positions (b : BitmapDecl) : List Nat :=
  b.flags.map (·.position.toNat)

theorem lt_of_readBelow {bits n : Nat} {text : String}
    (read : Numeral.readBelow bits text = some n) : n < 2 ^ bits := by
  have small := (Option.filter_eq_some_iff.1 read).2
  rwa [decide_eq_true_iff, Nat.one_shiftLeft] at small

/-- A flag has the position that its element declares as a number. -/
theorem position?_eq (child : Element) :
    position? child.1 = (flagOf child).map (·.position.toNat) := by
  rw [flagOf, position?, Option.map_map]
  cases position : (value? child.1 "bit").bind (Numeral.readBelow 32) with
  | none => rfl
  | some n =>
      rcases Option.bind_eq_some_iff.1 position with ⟨text, -, below⟩
      exact congrArg some (UInt32.toNat_ofNat_of_lt' (lt_of_readBelow below)).symm

theorem positions_bitmapOf (e : Element) : positions (bitmapOf e) = positionsIn e := by
  rw [positions, bitmapOf, List.map_filterMap, positionsIn]
  exact List.filterMap_congr fun child _ => (position?_eq child).symm

end Reading

/-! ## Masks -/

theorem BitFlag.mask?_eq (f : BitFlag) :
    f.mask? = if f.position.toNat < 64 then some (2 ^ f.position.toNat) else none := by
  rw [mask?, Nat.one_shiftLeft]

namespace BitmapDecl

variable {b : BitmapDecl}

/-- The masks of the flags that have one. -/
def masks (b : BitmapDecl) : List UInt64 :=
  b.flags.filterMap fun f => f.mask?.map UInt64.ofNat

theorem toNat_mask {position : Nat} (low : position < 64) :
    (UInt64.ofNat (2 ^ position)).toNat = 2 ^ position :=
  UInt64.toNat_ofNat_of_lt' (Nat.pow_lt_pow_right (by decide) low)

theorem mem_masks_iff {v : UInt64} :
    v ∈ b.masks ↔ ∃ f ∈ b.flags, f.position.toNat < 64 ∧ v.toNat = 2 ^ f.position.toNat := by
  rw [masks, List.mem_filterMap]
  refine exists_congr fun f => and_congr_right fun _ => ?_
  rw [BitFlag.mask?_eq]
  split
  · next low =>
      rw [Option.map_some, Option.some.injEq, ← UInt64.toNat_inj, toNat_mask low, eq_comm]
      exact (and_iff_right low).symm
  · next high => simp [high]

/-- A type has room for the masks iff it has that many bits. -/
theorem holds_masks_iff {t : IntType} (unsigned : t ∈ IntType.unsignedTypes) :
    (∀ v ∈ b.masks, t.Holds v.toNat) ↔
      ∀ f ∈ b.flags, f.position.toNat < 64 → f.position.toNat < t.bits := by
  have room (f : BitFlag) : t.Holds (2 ^ f.position.toNat : Nat) ↔ f.position.toNat < t.bits := by
    rw [IntType.holds_unsigned_iff unsigned, Nat.pow_lt_pow_iff_right (by decide)]
  constructor
  · intro holds f listed low
    have mask := holds (UInt64.ofNat (2 ^ f.position.toNat))
      (mem_masks_iff.2 ⟨f, listed, low, toNat_mask low⟩)
    rw [toNat_mask low] at mask
    exact (room f).1 mask
  · intro positions v listed
    rcases mem_masks_iff.1 listed with ⟨f, declared, low, same⟩
    rw [same]
    exact (room f).2 (positions f declared low)

/-! ## The integer type -/

theorem highest_lt_iff {limit : Nat} (positive : 0 < limit) :
    b.highest < limit ↔ ∀ f ∈ b.flags, f.position.toNat < limit := by
  rw [highest, foldl_max_lt_iff]
  simp [positive]

/-- The type for the highest position is the one for its mask. -/
theorem baseType_eq (b : BitmapDecl) : b.baseType = .unsignedFor (2 ^ b.highest) := by
  have below (bits : Nat) : 2 ^ b.highest < 1 <<< bits ↔ b.highest < bits := by
    rw [Nat.one_shiftLeft, Nat.pow_lt_pow_iff_right (by decide)]
  unfold baseType IntType.unsignedFor
  simp only [below]

theorem baseType_mem (b : BitmapDecl) : b.baseType ∈ IntType.unsignedTypes := by
  rw [baseType_eq]
  exact IntType.unsignedFor_mem _

theorem narrowest_baseType (low : ∀ f ∈ b.flags, f.position.toNat < 64) :
    b.baseType.Narrowest b.masks := by
  have inside : 2 ^ b.highest < 2 ^ 64 :=
    Nat.pow_lt_pow_right (by decide) ((highest_lt_iff (by decide)).2 low)
  have widths : ∀ t ∈ IntType.unsignedTypes, 0 < t.bits := by
    decide
  have room {t : IntType} (unsigned : t ∈ IntType.unsignedTypes) :
      (∀ v ∈ b.masks, t.Holds v.toNat) ↔ 2 ^ b.highest < 2 ^ t.bits := by
    rw [holds_masks_iff unsigned, Nat.pow_lt_pow_iff_right (by decide),
      highest_lt_iff (widths t unsigned)]
    exact ⟨fun all f listed => all f listed (low f listed), fun all f listed _ => all f listed⟩
  refine ⟨b.baseType_mem, (room b.baseType_mem).2 ?_, ?_⟩
  · rw [baseType_eq]
    exact IntType.lt_unsignedFor inside
  · intro other unsigned holds
    rw [baseType_eq]
    exact IntType.bits_unsignedFor_le unsigned ((room unsigned).1 holds)

/-- A position without a mask calls for the widest type. -/
theorem baseType_of_high {f : BitFlag} (listed : f ∈ b.flags) (high : 64 ≤ f.position.toNat) :
    b.baseType = .u64 := by
  have reached : f.position.toNat ≤ b.highest := by
    refine Nat.not_lt.1 fun above => ?_
    have all := (highest_lt_iff (Nat.zero_lt_of_lt above)).1 above
    exact Nat.lt_irrefl _ (all f listed)
  unfold baseType
  rw [if_neg (by omega), if_neg (by omega), if_neg (by omega)]

/-- The type has room for each mask, also beside positions without one. -/
theorem holds_baseType {f : BitFlag} (listed : f ∈ b.flags) (low : f.position.toNat < 64) :
    b.baseType.Holds (2 ^ f.position.toNat : Nat) := by
  rw [IntType.holds_unsigned_iff b.baseType_mem, Nat.pow_lt_pow_iff_right (by decide)]
  by_cases all : ∀ g ∈ b.flags, g.position.toNat < 64
  · exact (holds_masks_iff b.baseType_mem).1 (narrowest_baseType all).holds f listed low
  · -- The widest type has room for every mask.
    push Not at all
    rcases all with ⟨g, other, high⟩
    rw [baseType_of_high other high]
    exact low

end BitmapDecl

/-! ## Text -/

theorem Text.Numeral.magnitude_hexMask (n : Nat) : Magnitude (hexMask n).toList n := by
  have written := Magnitude.hexadecimal (isDigits_padded (by decide) (by decide) 2
    (isDigits_digits (by decide) (by decide) true n))
  rw [valueOf_padded, valueOf_digits (by decide) (by decide)] at written
  rw [hexMask, String.toList_append,
    String.toList_ofList (l := padded 2 (digits 16 true n))]
  exact written

namespace BitmapDecl

/-- The lines of a constant: the summary of the flag, then its name and an integer literal for the
value of its bit, which lies in the type. -/
def IsConstant (base : IntType) (f : BitFlag) (lines : String) : Prop :=
  ∃ literal, lines = summaryLine f.summary ++ "pub const " ++ f.constant ++ ": " ++ base.text ++
      " = " ++ literal ++ ";\n" ∧
    Spells literal.toList (2 ^ f.position.toNat : Nat) ∧ base.Holds (2 ^ f.position.toNat : Nat)

/-- The flags with a mask. -/
def maskedFlags (b : BitmapDecl) : List BitFlag :=
  b.flags.filter fun f => decide (f.position.toNat < 64)

/-- The source text of a bitmap is an alias of its integer type and, where there are any, a module of
constants, one for each flag with a mask and in their order. -/
def EmitsMasks (b : BitmapDecl) : Prop :=
  ∃ constants, List.Forall₂ (IsConstant b.baseType) b.maskedFlags constants ∧
    b.bitmapType.text =
      docLine (b.typeName ++ " bitmap type") ++ "pub type " ++ b.typeName ++ " = " ++
        b.baseType.text ++ ";\n" ++
        if constants.isEmpty then ""
        else
          "\n" ++ docLine ("Constants for " ++ b.typeName) ++
            block ("pub mod " ++ b.moduleName) (String.join constants) ++ "\n"

/-- The constant of a flag with a mask. -/
def constantOf (f : BitFlag) : MaskConstant :=
  ⟨f.constant, 2 ^ f.position.toNat, f.summary⟩

theorem constants_bitmapType (b : BitmapDecl) :
    b.bitmapType.constants = b.maskedFlags.map constantOf := by
  rw [bitmapType, maskedFlags, ← List.filterMap_eq_map, List.filterMap_filter]
  refine List.filterMap_congr fun f _ => ?_
  rw [BitFlag.maskConstant?, BitFlag.mask?_eq]
  simp only [decide_eq_true_eq]
  split <;> rfl

theorem emitsMasks (b : BitmapDecl) : b.EmitsMasks := by
  refine ⟨b.bitmapType.constants.map (BitmapType.constantText b.baseType), ?_, ?_⟩
  · rw [constants_bitmapType, List.map_map, List.forall₂_map_right_iff, List.forall₂_same]
    intro f kept
    rcases List.mem_filter.1 kept with ⟨listed, masked⟩
    exact ⟨_, rfl, .unsigned (Numeral.magnitude_hexMask _),
      holds_baseType listed (of_decide_eq_true masked)⟩
  · simp only [BitmapType.text, BitmapType.moduleText, List.isEmpty_map]
    simp only [bitmapType]

/-! ## Bitmaps of a document -/

theorem flags_settleBitmap (taken : List String) (b : BitmapDecl) :
    (Resolve.settleBitmap taken b).flags = b.flags := by
  unfold Resolve.settleBitmap
  split <;> rfl

theorem positions_withDistinctConstants (b : BitmapDecl) :
    Reading.positions b.withDistinctConstants = Reading.positions b := by
  have keeps : ∀ f : BitFlag, f.withPosition.position.toNat = f.position.toNat := fun _ => rfl
  exact Resolve.map_renameRepeats keeps [] b.flags

theorem baseType_eq_of_positions {b b' : BitmapDecl}
    (same : Reading.positions b' = Reading.positions b) : b'.baseType = b.baseType := by
  have highest : b'.highest = b.highest := congrArg (List.foldl max 0) same
  rw [baseType, baseType, highest]

end BitmapDecl

/-- Resolution keeps the positions of a bitmap. -/
theorem Cluster.exists_bitmap_resolve {c : Cluster} {b : BitmapDecl}
    (listed : b ∈ c.bitmaps.toList) :
    ∃ b', c.resolve.cluster.bitmaps.get? b.name = some b' ∧
      Reading.positions b' = Reading.positions b := by
  refine ⟨_, SymbolTable.get?_eq_some_iff.2
    ⟨List.mem_map_of_mem (List.mem_map_of_mem listed), Resolve.name_settleBitmap _ b⟩, ?_⟩
  rw [BitmapDecl.positions_withDistinctConstants, Reading.positions, BitmapDecl.flags_settleBitmap]
  rfl

open Reading in
/-- The bitmaps of a document are those that the bitmap elements in the data type sections of its
root declare, each one as the last element with its name does. The flags stand at the 32-bit
positions that the elements inside that one declare, in their order. A flag has a mask iff its
position is below 64. As long as all are, the integer type is the narrowest unsigned one with room
for the masks; otherwise it is the widest one. After resolution the positions and the type are the
same, and the source text has one constant for each flag with a mask, whose value lies in the
type. -/
theorem Cluster.masks_ofText {text : String} {c : Cluster} {b : BitmapDecl}
    (reads : Cluster.ofText text = .ok c) (listed : b ∈ c.bitmaps.toList) :
    (∃ root e, rootOf (Xml.Stream.ofText text).events = some root ∧ FromElements root c ∧
        ReadFrom bitmapIn (dataTypesNamed "bitmap" root) e b ∧ b = bitmapOf e ∧
        positions b = positionsIn e) ∧
      (∀ f ∈ b.flags, f.mask? =
        if f.position.toNat < 64 then some (2 ^ f.position.toNat) else none) ∧
      ((∀ f ∈ b.flags, f.position.toNat < 64) → b.baseType.Narrowest b.masks) ∧
      ((∃ f ∈ b.flags, 64 ≤ f.position.toNat) → b.baseType = .u64) ∧
      ∃ b', c.resolve.cluster.bitmaps.get? b.name = some b' ∧ positions b' = positions b ∧
        b'.baseType = b.baseType ∧ b'.EmitsMasks := by
  refine ⟨?_, ?_, ?_, ?_, ?_⟩
  · rcases fromElements_ofText reads with ⟨root, first, known⟩
    rcases exists_readFrom known.bitmaps listed with ⟨e, own⟩
    have declared := eq_bitmapOf own.read
    exact ⟨root, e, first, known, own, declared, declared ▸ positions_bitmapOf e⟩
  · exact fun f _ => f.mask?_eq
  · exact BitmapDecl.narrowest_baseType
  · rintro ⟨f, known, high⟩
    exact BitmapDecl.baseType_of_high known high
  · rcases Cluster.exists_bitmap_resolve listed with ⟨b', found, same⟩
    exact ⟨b', found, same, BitmapDecl.baseType_eq_of_positions same, b'.emitsMasks⟩

/-- Two bitmaps, of which the second one declares a position without a mask. -/
def flagsText : String :=
  "<cluster id=\"0x0008\" name=\"Flags\"><dataTypes>" ++
    "<bitmap name=\"LevelBitmap\"><bitfield name=\"On\" bit=\"0\"/>" ++
    "<bitfield name=\"Dim\" bit=\"0x9\"/></bitmap>" ++
    "<bitmap name=\"FlagsBitmap\"><bitfield name=\"Low\" bit=\"0\"/>" ++
    "<bitfield name=\"High\" bit=\"64\"/></bitmap></dataTypes></cluster>"

def levelBitmap : BitmapDecl :=
  ⟨"LevelBitmap", [⟨0, "On", "ON", ""⟩, ⟨9, "Dim", "DIM", ""⟩], false⟩

def flagsBitmap : BitmapDecl :=
  ⟨"FlagsBitmap", [⟨0, "Low", "LOW", ""⟩, ⟨64, "High", "HIGH", ""⟩], false⟩

theorem Cluster.bitmaps_flagsText :
    ∃ c, Cluster.ofText flagsText = .ok c ∧ c.bitmaps.toList = [levelBitmap, flagsBitmap] := by
  have bitmaps : (Cluster.ofText flagsText).toOption.map (·.bitmaps.toList) =
      some [levelBitmap, flagsBitmap] := by decide +kernel
  cases reads : Cluster.ofText flagsText with
  | error e =>
      rw [reads] at bitmaps
      cases bitmaps
  | ok c =>
      rw [reads] at bitmaps
      exact ⟨c, rfl, Option.some.inj bitmaps⟩

open Reading in
/-- With masks for both flags the narrowest type has 16 bits; with another position it has 64. -/
theorem Cluster.masks_ofText_flagsText :
    ∃ c, Cluster.ofText flagsText = .ok c ∧ c.bitmaps.toList = [levelBitmap, flagsBitmap] ∧
      (∃ root e, rootOf (Xml.Stream.ofText flagsText).events = some root ∧
        ReadFrom bitmapIn (dataTypesNamed "bitmap" root) e levelBitmap ∧ positionsIn e = [0, 9]) ∧
      IntType.u16.Narrowest levelBitmap.masks ∧ levelBitmap.masks = [1, 512] ∧
      flagsBitmap.baseType = .u64 := by
  rcases Cluster.bitmaps_flagsText with ⟨c, reads, bitmaps⟩
  have level := Cluster.masks_ofText reads (bitmaps ▸ List.mem_cons_self)
  have flags := Cluster.masks_ofText reads (bitmaps ▸ List.mem_cons_of_mem _ List.mem_cons_self)
  rcases level with ⟨⟨root, e, first, -, own, -, same⟩, -, narrowest, -⟩
  exact ⟨c, reads, bitmaps, ⟨root, e, first, own, same.symm⟩, narrowest (by decide),
    by decide +kernel, flags.2.2.2.1 (by decide)⟩

/-- A document is accepted with a flag that has no mask. There is no constant for it, and the type is
wider than the only mask needs. -/
theorem Cluster.unmasked_flagsText :
    ∃ c, Cluster.ofText flagsText = .ok c ∧ flagsBitmap ∈ c.bitmaps.toList ∧
      (∃ f ∈ flagsBitmap.flags, f.position = 64 ∧ f.mask? = none) ∧
      flagsBitmap.bitmapType.constants = [⟨"LOW", 1, ""⟩] ∧ flagsBitmap.masks = [1] ∧
      flagsBitmap.baseType = .u64 ∧ ¬ flagsBitmap.baseType.Narrowest flagsBitmap.masks := by
  rcases Cluster.bitmaps_flagsText with ⟨c, reads, bitmaps⟩
  have listed : flagsBitmap ∈ c.bitmaps.toList :=
    bitmaps ▸ List.mem_cons_of_mem _ List.mem_cons_self
  have masks : flagsBitmap.masks = [1] := by decide +kernel
  have room : ∀ v ∈ flagsBitmap.masks, IntType.u8.Holds v.toNat := by
    rw [masks]
    exact List.forall_mem_singleton.2 (by decide)
  have base : flagsBitmap.baseType = .u64 := by decide
  refine ⟨c, reads, listed, by decide +kernel, by decide, masks, base, fun narrowest => ?_⟩
  have least := narrowest.least .u8 (by decide) room
  rw [base] at least
  exact absurd least (by decide)

end ClusterCodec

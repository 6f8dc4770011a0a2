import ClusterCodec.Resolve.Resolved
import Mathlib.Data.List.Basic

/-!
# Idempotence — resolving a resolved cluster

- `withSharedStructs_resolve`: no struct is added to a resolved cluster.
- `Cluster.Unambiguous`: variants and constants are distinct, and no bitmap without its suffix has
  the type name of an enum.
- `resolve_resolve_iff`: a second resolution changes nothing iff the first one has left the cluster
  unambiguous.  Structs, recursive references and the type names of enums never change.
- `resolve_resolve_ne_fan`: a variant that is renamed to one that was there before.
-/

namespace ClusterCodec

open Resolve Text

/-! ## Shared structs -/

namespace Cluster

variable {c : Cluster}

theorem mem_withSharedStructs {d : StructDecl} (h : d ∈ c.withSharedStructs.toList) :
    d ∈ c.structs.toList ∨ sharedStruct? d.name = some d := by
  have found : c.withSharedStructs.get? d.name = some d := SymbolTable.get?_eq_some_iff.2 ⟨h, rfl⟩
  rw [get?_withSharedStructs] at found
  rcases Option.or_eq_some_iff.1 found with declared | ⟨-, shared⟩
  · exact .inl (SymbolTable.get?_eq_some_iff.1 declared).1
  · split at shared
    · exact .inr shared
    · cases shared

theorem mem_names_of_referred {name : String} (h : name ∈ c.referredTypes) {d : StructDecl}
    (shared : sharedStruct? name = some d) : name ∈ c.withSharedStructs.names := by
  have found : c.withSharedStructs.get? name ≠ none := by
    rw [get?_withSharedStructs, if_pos h, shared]
    cases c.structs.get? name <;> simp
  exact Classical.not_not.1 (mt SymbolTable.get?_eq_none_iff.2 found)

/-- A resolved cluster refers to what the cluster refers to, and to the types of shared structs. -/
theorem referredTypes_resolve {name : String} (h : name ∈ c.resolve.cluster.referredTypes) :
    name ∈ c.referredTypes ∨ sharedStruct? name = none := by
  rcases List.mem_flatMap.1 h with ⟨f, hf, hname⟩
  rcases List.mem_append.1 hf with attr | field
  · exact .inl (List.mem_flatMap.2 ⟨f, List.mem_append_left _ attr, hname⟩)
  · rcases List.mem_flatMap.1 field with ⟨d, hd, hfd⟩
    rcases mem_withSharedStructs hd with declared | shared
    · have fields : f ∈ c.structs.toList.flatMap StructDecl.fields :=
        List.mem_flatMap.2 ⟨d, declared, hfd⟩
      exact .inl (List.mem_flatMap.2 ⟨f, List.mem_append_right _ fields, hname⟩)
    · exact .inr (sharedStruct?_of_mem_fields shared hfd hname)

theorem withSharedStructs_resolve (c : Cluster) :
    c.resolve.cluster.withSharedStructs = c.resolve.cluster.structs := by
  refine foldl_addShared_eq_self fun name hname => ?_
  rcases referredTypes_resolve hname with referred | unshared
  · cases shared : sharedStruct? name with
    | none => exact .inr rfl
    | some d => exact .inl (mem_names_of_referred referred shared)
  · exact .inr unshared

end Cluster

/-! ## One declaration -/

theorem Text.append_ne_self {s t : String} (h : t ≠ "") : s ++ t ≠ s := by
  intro same
  have chars : s.toList ++ t.toList = s.toList ++ [] := by
    rw [← String.toList_append, same, List.append_nil]
  exact h (String.toList_eq_nil_iff.1 (List.append_cancel_left chars))

theorem EnumItem.withValue_ne (i : EnumItem) : i.withValue ≠ i := fun same =>
  append_ne_self (Numeral.decimal_ne_empty _) (congrArg EnumItem.variant same)

theorem BitFlag.withPosition_ne (f : BitFlag) : f.withPosition ≠ f := by
  intro same
  have constant : f.constant ++ ("_" ++ Numeral.decimal f.position.toNat) = f.constant := by
    rw [← String.append_assoc]
    exact congrArg BitFlag.constant same
  refine append_ne_self (fun empty => ?_) constant
  have chars := congrArg String.toList empty
  rw [String.toList_append] at chars
  cases chars

theorem withDistinctVariants_eq_self_iff {e : EnumDecl} :
    e.withDistinctVariants = e ↔ (e.items.map EnumItem.variant).Nodup := by
  have items : renameRepeats EnumItem.variant EnumItem.withValue [] e.items = e.items ↔
      (e.items.map EnumItem.variant).Nodup := by
    simp [renameRepeats_eq_self_iff EnumItem.withValue_ne]
  rw [← items]
  exact ⟨congrArg EnumDecl.items, fun same => by rw [EnumDecl.withDistinctVariants, same]⟩

theorem withDistinctConstants_eq_self_iff {b : BitmapDecl} :
    b.withDistinctConstants = b ↔ (b.flags.map BitFlag.constant).Nodup := by
  have flags : renameRepeats BitFlag.constant BitFlag.withPosition [] b.flags = b.flags ↔
      (b.flags.map BitFlag.constant).Nodup := by
    simp [renameRepeats_eq_self_iff BitFlag.withPosition_ne]
  rw [← flags]
  exact ⟨congrArg BitmapDecl.flags, fun same => by rw [BitmapDecl.withDistinctConstants, same]⟩

theorem settleEnum_withDistinctVariants (taken : List String) (e : EnumDecl) :
    settleEnum taken e.withDistinctVariants = (settleEnum taken e).withDistinctVariants := by
  have name : e.withDistinctVariants.typeName = e.typeName := rfl
  unfold settleEnum
  rw [name]
  split <;> rfl

theorem settleBitmap_eq_self_iff {taken : List String} {b : BitmapDecl} :
    settleBitmap taken b = b ↔ (b.typeName ∈ taken → b.keepSuffix = true) := by
  unfold settleBitmap
  split
  · next given =>
    constructor
    · intro same _
      exact (congrArg BitmapDecl.keepSuffix same).symm
    · intro keeps
      rcases b with ⟨name, flags, keepSuffix⟩
      cases keeps given
      rfl
  · next free => exact ⟨fun _ given => (free given).elim, fun _ => rfl⟩

/-- The two passes over a bitmap change different parts of it. -/
theorem withDistinctConstants_settleBitmap_eq_self_iff {taken : List String} {b : BitmapDecl} :
    (settleBitmap taken b).withDistinctConstants = b ↔
      settleBitmap taken b = b ∧ b.withDistinctConstants = b := by
  constructor
  · intro same
    have keeps : (settleBitmap taken b).withDistinctConstants.keepSuffix = b.keepSuffix :=
      congrArg BitmapDecl.keepSuffix same
    have settled : settleBitmap taken b = b := by
      refine settleBitmap_eq_self_iff.2 fun given => ?_
      rw [← keeps, settleBitmap, if_pos given]
      rfl
    exact ⟨settled, by rwa [settled] at same⟩
  · rintro ⟨settled, distinct⟩
    rw [settled, distinct]

theorem name_enum_passes (taken : List String) (e : EnumDecl) :
    Named.name (settleEnum taken e).withDistinctVariants = Named.name e :=
  name_settleEnum taken e

theorem name_bitmap_passes (taken : List String) (b : BitmapDecl) :
    Named.name (settleBitmap taken b).withDistinctConstants = Named.name b :=
  name_settleBitmap taken b

/-! ## The whole cluster -/

namespace Cluster

/-- What resolution is for, as far as a second resolution would look at it. -/
structure Unambiguous (c : Cluster) : Prop where
  variants : ∀ e ∈ c.enums.toList, (e.items.map EnumItem.variant).Nodup
  constants : ∀ b ∈ c.bitmaps.toList, (b.flags.map BitFlag.constant).Nodup
  shortNames : ∀ b ∈ c.bitmaps.toList, b.keepSuffix = false → b.typeName ∉ enumTypeNames c.enums

variable {c : Cluster}

theorem ofCluster_eq_iff {c c' : Cluster} : Resolved.ofCluster c = Resolved.ofCluster c' ↔ c = c' :=
  ⟨congrArg Resolved.cluster, congrArg Resolved.ofCluster⟩

theorem settle_eq_self_iff_tables (h : c.withSharedStructs = c.structs) :
    c.settle = c ↔ c.settle.enums = c.enums ∧ c.settle.bitmaps = c.bitmaps := by
  constructor
  · intro same
    exact ⟨congrArg Cluster.enums same, congrArg Cluster.bitmaps same⟩
  · rintro ⟨enums, bitmaps⟩
    have parts : c.settle =
        { c with
          structs := c.withSharedStructs
          enums := c.settle.enums
          bitmaps := c.settle.bitmaps } := rfl
    rw [parts, h, enums, bitmaps]

/-- A cluster that lacks no shared struct is settled iff each of its declarations is. -/
theorem settle_eq_self_iff (h : c.withSharedStructs = c.structs) :
    c.settle = c ↔
      (∀ e ∈ c.enums.toList,
        (settleEnum (structTypeNames c.structs) e).withDistinctVariants = e) ∧
      ∀ b ∈ c.bitmaps.toList,
        (settleBitmap (structTypeNames c.structs ++ enumTypeNames c.enums)
          b).withDistinctConstants = b := by
  have enums : c.settle.enums = c.enums.mapEntries
      (fun e => (settleEnum (structTypeNames c.structs) e).withDistinctVariants)
      (name_enum_passes _) := by
    rw [← h]
    exact SymbolTable.ext (List.map_map ..)
  have bitmaps : c.settle.bitmaps = c.bitmaps.mapEntries
      (fun b => (settleBitmap (structTypeNames c.structs ++ enumTypeNames c.enums)
        b).withDistinctConstants) (name_bitmap_passes _) := by
    rw [← h]
    exact SymbolTable.ext (List.map_map ..)
  rw [settle_eq_self_iff_tables h, enums, bitmaps, SymbolTable.mapEntries_eq_self_iff,
    SymbolTable.mapEntries_eq_self_iff]

/-- The enums of a resolved cluster keep their suffix where they have to. -/
theorem settleEnum_of_mem_resolve {e : EnumDecl} (h : e ∈ c.resolve.cluster.enums.toList) :
    settleEnum (structTypeNames c.resolve.cluster.structs) e = e := by
  rcases List.mem_map.1 h with ⟨settled, hsettled, rfl⟩
  rcases List.mem_map.1 hsettled with ⟨given, -, rfl⟩
  rw [settleEnum_withDistinctVariants]
  exact congrArg EnumDecl.withDistinctVariants (settleEnum_settleEnum _ given)

theorem enumTypeNames_resolve_resolve (c : Cluster) :
    enumTypeNames c.resolve.cluster.resolve.cluster.enums =
      enumTypeNames c.resolve.cluster.enums := by
  have settled : c.resolve.cluster.resolve.cluster.enums.toList =
      (c.resolve.cluster.enums.toList.map (settleEnum (structTypeNames
        c.resolve.cluster.withSharedStructs))).map EnumDecl.withDistinctVariants := rfl
  have names : EnumDecl.typeName ∘ EnumDecl.withDistinctVariants = EnumDecl.typeName := rfl
  rw [enumTypeNames, settled, List.map_map, names, withSharedStructs_resolve, List.map_map]
  refine List.map_congr_left fun e he => ?_
  rw [Function.comp_apply, settleEnum_of_mem_resolve he]

/-- A bitmap of a resolved cluster is looked at anew only because an enum has kept its suffix. -/
theorem settleBitmap_of_mem_resolve {b : BitmapDecl} (h : b ∈ c.resolve.cluster.bitmaps.toList) :
    settleBitmap (structTypeNames c.resolve.cluster.structs ++
        enumTypeNames c.resolve.cluster.enums) b = b ↔
      (b.keepSuffix = false → b.typeName ∉ enumTypeNames c.resolve.cluster.enums) := by
  -- The structs are the same as before, and the first resolution has compared the name with them.
  have apart : b.keepSuffix = false →
      b.typeName ∉ structTypeNames c.resolve.cluster.structs := by
    rcases List.mem_map.1 h with ⟨settled, hsettled, rfl⟩
    rcases List.mem_map.1 hsettled with ⟨given, -, rfl⟩
    intro short taken
    have distinct : (settleBitmap (structTypeNames c.withSharedStructs ++ enumTypeNames c.enums)
        given).keepSuffix = false := short
    unfold settleBitmap at distinct
    split at distinct
    · cases distinct
    · next free =>
      rw [settleBitmap, if_neg free] at taken
      exact free (List.mem_append_left _ taken)
  rw [settleBitmap_eq_self_iff, List.mem_append]
  constructor
  · intro keeps short taken
    rw [keeps (.inr taken)] at short
    cases short
  · intro free taken
    cases short : b.keepSuffix with
    | true => rfl
    | false => exact (taken.elim (apart short) (free short)).elim

theorem enum_passes_of_mem_resolve {e : EnumDecl} (h : e ∈ c.resolve.cluster.enums.toList) :
    (settleEnum (structTypeNames c.resolve.cluster.structs) e).withDistinctVariants = e ↔
      (e.items.map EnumItem.variant).Nodup := by
  rw [settleEnum_of_mem_resolve h, withDistinctVariants_eq_self_iff]

theorem bitmap_passes_of_mem_resolve {b : BitmapDecl}
    (h : b ∈ c.resolve.cluster.bitmaps.toList) :
    (settleBitmap (structTypeNames c.resolve.cluster.structs ++
        enumTypeNames c.resolve.cluster.enums) b).withDistinctConstants = b ↔
      (b.keepSuffix = false → b.typeName ∉ enumTypeNames c.resolve.cluster.enums) ∧
        (b.flags.map BitFlag.constant).Nodup := by
  rw [withDistinctConstants_settleBitmap_eq_self_iff, settleBitmap_of_mem_resolve h,
    withDistinctConstants_eq_self_iff]

/-- Resolving a resolved cluster gives the same cluster iff the first resolution left no variant, no
constant and no short name of a bitmap ambiguous.  The structs, their recursive references and the
type names of the enums are the same in any case. -/
theorem resolve_resolve_iff (c : Cluster) :
    c.resolve.cluster.resolve.cluster.structs = c.resolve.cluster.structs ∧
      c.resolve.cluster.resolve.recursiveEdges = c.resolve.recursiveEdges ∧
      enumTypeNames c.resolve.cluster.resolve.cluster.enums =
        enumTypeNames c.resolve.cluster.enums ∧
      (c.resolve.cluster.resolve = c.resolve ↔ c.resolve.cluster.Unambiguous) := by
  have structs := c.withSharedStructs_resolve
  refine ⟨structs, congrArg StructTable.recursiveEdges structs,
    c.enumTypeNames_resolve_resolve, ?_⟩
  have same : c.resolve.cluster.resolve = c.resolve ↔
      c.resolve.cluster.settle = c.resolve.cluster := ofCluster_eq_iff
  rw [same, settle_eq_self_iff structs]
  constructor
  · rintro ⟨enums, bitmaps⟩
    refine ⟨fun e he => ?_, fun b hb => ?_, fun b hb => ?_⟩
    · exact (enum_passes_of_mem_resolve he).1 (enums e he)
    · exact ((bitmap_passes_of_mem_resolve hb).1 (bitmaps b hb)).2
    · exact ((bitmap_passes_of_mem_resolve hb).1 (bitmaps b hb)).1
  · rintro ⟨variants, constants, shortNames⟩
    refine ⟨fun e he => ?_, fun b hb => ?_⟩
    · exact (enum_passes_of_mem_resolve he).2 (variants e he)
    · exact (bitmap_passes_of_mem_resolve hb).2 ⟨shortNames b hb, constants b hb⟩

/-- An enum with a repeated variant, whose new name is that of an item before it. -/
def fan : Cluster :=
  { id := 9
    idText := "0x0009"
    name := "Fan"
    enums := .ofList [
      ((EnumDecl.addItem { name := "SpeedEnum" } 0 "Fast1" "").addItem 2 "Fast" "").addItem 1
        "Fast" ""] }

/-- The variants of the enums of a cluster. -/
def variants (c : Cluster) : List (List String) :=
  c.enums.toList.map fun e => e.items.map EnumItem.variant

/-- The third item becomes `Fast1`, and in a second resolution `Fast11`. -/
theorem resolve_resolve_ne_fan :
    fan.resolve.cluster.variants = [["Fast1", "Fast", "Fast1"]] ∧
      fan.resolve.cluster.resolve.cluster.variants = [["Fast1", "Fast", "Fast11"]] ∧
      fan.resolve.cluster.resolve ≠ fan.resolve := by
  have once : fan.resolve.cluster.variants = [["Fast1", "Fast", "Fast1"]] := by
    decide +kernel
  have twice : fan.resolve.cluster.resolve.cluster.variants = [["Fast1", "Fast", "Fast11"]] := by
    decide +kernel
  refine ⟨once, twice, fun same => ?_⟩
  rw [same, once] at twice
  revert twice
  decide

end Cluster
end ClusterCodec

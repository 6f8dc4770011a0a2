import ClusterCodec.Resolve.Resolved
import Mathlib.Data.List.Basic

/-!
# TypeNames — whether declarations of different categories share a type name

Resolution compares the type names that the declarations have before any of them keeps its suffix.
The name with the suffix is not compared with anything.

- `EnumDecl.fullName`, `BitmapDecl.fullName`: the type name with the category suffix;
  `enum_fullName_ne_bitmap_fullName` says that the two categories never agree on one.
- `Cluster.EnumGivesWay`, `Cluster.BitmapGivesWay`: the declarations that resolution makes keep their
  suffix.
- `Cluster.TypeNamesApart`: no enum has the type name of a struct, and no bitmap that of a struct or
  of an enum.
- `Cluster.FullNamesFree`: what gives way does not run into another name.
- `typeNamesApart_resolve_iff`: the second is the exact condition for the first after resolution.
- `not_typeNamesApart_nestedDials`: an enum gives way to a struct and takes the type name of a bitmap.
-/

namespace ClusterCodec

open Name Resolve

/-! ## Full names -/

def EnumDecl.fullName (e : EnumDecl) : String :=
  Identifier.ofType e.name enumSuffix true

def BitmapDecl.fullName (b : BitmapDecl) : String :=
  Identifier.ofType b.name bitmapSuffix true

theorem hasSuffix_iff {suffix name : String} :
    hasSuffix suffix name = true ↔ suffix.toList <:+ name.toList :=
  List.isSuffixOf_iff_suffix

theorem enumSuffix_suffix_fullName {e : EnumDecl} (h : hasSuffix enumSuffix e.name = true) :
    enumSuffix.toList <:+ e.fullName.toList :=
  Identifier.suffix_ofWords (by decide) (List.all_eq_true.1 (by decide)) (by decide)
    (by decide +kernel) (hasSuffix_iff.1 h)

theorem bitmapSuffix_suffix_fullName {b : BitmapDecl} (h : hasSuffix bitmapSuffix b.name = true) :
    bitmapSuffix.toList <:+ b.fullName.toList :=
  Identifier.suffix_ofWords (by decide) (List.all_eq_true.1 (by decide)) (by decide)
    (by decide +kernel) (hasSuffix_iff.1 h)

/-- An enum and a bitmap that both keep their suffix differ in it. -/
theorem enum_fullName_ne_bitmap_fullName {e : EnumDecl} {b : BitmapDecl}
    (he : hasSuffix enumSuffix e.name = true) (hb : hasSuffix bitmapSuffix b.name = true) :
    b.fullName ≠ e.fullName := by
  intro same
  have enum := enumSuffix_suffix_fullName he
  have bitmap := bitmapSuffix_suffix_fullName hb
  rw [same] at bitmap
  have shorter : enumSuffix.toList <:+ bitmapSuffix.toList :=
    List.suffix_of_suffix_length_le enum bitmap (by decide)
  revert shorter
  decide

/-! ## The names after resolution -/

namespace Cluster

/-- The type names of the structs, shared ones among them. -/
def takenByStructs (c : Cluster) : List String :=
  structTypeNames c.withSharedStructs

/-- A struct has the type name of the enum. -/
def EnumGivesWay (c : Cluster) (e : EnumDecl) : Prop :=
  e.typeName ∈ c.takenByStructs

/-- A struct or an enum has the type name of the bitmap. -/
def BitmapGivesWay (c : Cluster) (b : BitmapDecl) : Prop :=
  b.typeName ∈ c.takenByStructs ++ enumTypeNames c.enums

instance (c : Cluster) (e : EnumDecl) : Decidable (c.EnumGivesWay e) :=
  inferInstanceAs (Decidable (e.typeName ∈ c.takenByStructs))

instance (c : Cluster) (b : BitmapDecl) : Decidable (c.BitmapGivesWay b) :=
  inferInstanceAs (Decidable (b.typeName ∈ c.takenByStructs ++ enumTypeNames c.enums))

/-- The type name of an enum after resolution. -/
def enumName (c : Cluster) (e : EnumDecl) : String :=
  if c.EnumGivesWay e then e.fullName else e.typeName

/-- The type name of a bitmap after resolution. -/
def bitmapName (c : Cluster) (b : BitmapDecl) : String :=
  if c.BitmapGivesWay b then b.fullName else b.typeName

/-- Every declaration's name ends in its category, as a reference to it has to. -/
structure Suffixed (c : Cluster) : Prop where
  enums : ∀ e ∈ c.enums.toList, hasSuffix enumSuffix e.name = true
  bitmaps : ∀ b ∈ c.bitmaps.toList, hasSuffix bitmapSuffix b.name = true
  structs : ∀ d ∈ c.structs.toList, hasSuffix structSuffix d.name = true

/-- No two declarations of different categories have one type name. -/
structure TypeNamesApart (c : Cluster) : Prop where
  enum_struct : ∀ e ∈ c.enums.toList, ∀ d ∈ c.structs.toList, e.typeName ≠ d.typeName
  bitmap_struct : ∀ b ∈ c.bitmaps.toList, ∀ d ∈ c.structs.toList, b.typeName ≠ d.typeName
  bitmap_enum : ∀ b ∈ c.bitmaps.toList, ∀ e ∈ c.enums.toList, b.typeName ≠ e.typeName

/-- What gives way finds its full name unused by the declarations that could have it. -/
structure FullNamesFree (c : Cluster) : Prop where
  enum_struct : ∀ e ∈ c.enums.toList, c.EnumGivesWay e → e.fullName ∉ c.takenByStructs
  bitmap_struct : ∀ b ∈ c.bitmaps.toList, c.BitmapGivesWay b → b.fullName ∉ c.takenByStructs
  enum_bitmap : ∀ e ∈ c.enums.toList, c.EnumGivesWay e →
    ∀ b ∈ c.bitmaps.toList, ¬ c.BitmapGivesWay b → e.fullName ≠ b.typeName
  bitmap_enum : ∀ b ∈ c.bitmaps.toList, c.BitmapGivesWay b →
    ∀ e ∈ c.enums.toList, ¬ c.EnumGivesWay e → b.fullName ≠ e.typeName

variable {c : Cluster}

theorem typeName_settleEnum (e : EnumDecl) :
    (settleEnum c.takenByStructs e).typeName = c.enumName e := by
  by_cases taken : e.typeName ∈ c.takenByStructs
  · have gives : c.EnumGivesWay e := taken
    rw [settleEnum, if_pos taken, enumName, if_pos gives]
    rfl
  · have stays : ¬ c.EnumGivesWay e := taken
    rw [settleEnum, if_neg taken, enumName, if_neg stays]

theorem typeName_settleBitmap (b : BitmapDecl) :
    (settleBitmap (c.takenByStructs ++ enumTypeNames c.enums) b).typeName = c.bitmapName b := by
  by_cases taken : b.typeName ∈ c.takenByStructs ++ enumTypeNames c.enums
  · have gives : c.BitmapGivesWay b := taken
    rw [settleBitmap, if_pos taken, bitmapName, if_pos gives]
    rfl
  · have stays : ¬ c.BitmapGivesWay b := taken
    rw [settleBitmap, if_neg taken, bitmapName, if_neg stays]

/-- Making the variants distinct leaves the name alone. -/
theorem typeNames_enums_resolve (c : Cluster) :
    c.resolve.cluster.enums.toList.map EnumDecl.typeName = c.enums.toList.map c.enumName := by
  have settled : c.resolve.cluster.enums.toList =
      (c.enums.toList.map (settleEnum c.takenByStructs)).map EnumDecl.withDistinctVariants := rfl
  have names : EnumDecl.typeName ∘ EnumDecl.withDistinctVariants = EnumDecl.typeName := rfl
  rw [settled, List.map_map, names, List.map_map]
  refine List.map_congr_left fun e _ => ?_
  rw [Function.comp_apply, typeName_settleEnum]

theorem typeNames_bitmaps_resolve (c : Cluster) :
    c.resolve.cluster.bitmaps.toList.map BitmapDecl.typeName =
      c.bitmaps.toList.map c.bitmapName := by
  have settled : c.resolve.cluster.bitmaps.toList =
      (c.bitmaps.toList.map (settleBitmap (c.takenByStructs ++ enumTypeNames c.enums))).map
        BitmapDecl.withDistinctConstants := rfl
  have names : BitmapDecl.typeName ∘ BitmapDecl.withDistinctConstants = BitmapDecl.typeName := rfl
  rw [settled, List.map_map, names, List.map_map]
  refine List.map_congr_left fun b _ => ?_
  rw [Function.comp_apply, typeName_settleBitmap]

/-- The condition on the resolved declarations, said of the given ones. -/
theorem typeNamesApart_resolve_iff_names :
    c.resolve.cluster.TypeNamesApart ↔
      (∀ e ∈ c.enums.toList, c.enumName e ∉ c.takenByStructs) ∧
        (∀ b ∈ c.bitmaps.toList, c.bitmapName b ∉ c.takenByStructs) ∧
          ∀ b ∈ c.bitmaps.toList, ∀ e ∈ c.enums.toList, c.bitmapName b ≠ c.enumName e := by
  -- Resolution keeps the structs and gives the enums and the bitmaps the names that are said here.
  have enums (P : String → Prop) : (∀ e ∈ c.resolve.cluster.enums.toList, P e.typeName) ↔
      ∀ e ∈ c.enums.toList, P (c.enumName e) := by
    rw [← List.forall_mem_map, typeNames_enums_resolve, List.forall_mem_map]
  have bitmaps (P : String → Prop) : (∀ b ∈ c.resolve.cluster.bitmaps.toList, P b.typeName) ↔
      ∀ b ∈ c.bitmaps.toList, P (c.bitmapName b) := by
    rw [← List.forall_mem_map, typeNames_bitmaps_resolve, List.forall_mem_map]
  have structs (n : String) : (∀ d ∈ c.resolve.cluster.structs.toList, n ≠ d.typeName) ↔
      n ∉ c.takenByStructs := by
    rw [takenByStructs, structTypeNames, List.mem_map]
    exact ⟨fun apart ⟨d, hd, same⟩ => apart d hd same.symm,
      fun free d hd same => free ⟨d, hd, same.symm⟩⟩
  have pairs : (∀ b ∈ c.resolve.cluster.bitmaps.toList, ∀ e ∈ c.resolve.cluster.enums.toList,
      b.typeName ≠ e.typeName) ↔
        ∀ b ∈ c.bitmaps.toList, ∀ e ∈ c.enums.toList, c.bitmapName b ≠ c.enumName e := by
    rw [bitmaps fun n => ∀ e ∈ c.resolve.cluster.enums.toList, n ≠ e.typeName]
    exact forall₂_congr fun b _ => enums fun n => c.bitmapName b ≠ n
  rw [← enums fun n => n ∉ c.takenByStructs, ← bitmaps fun n => n ∉ c.takenByStructs, ← pairs]
  simp only [← structs]
  exact ⟨fun ⟨es, bs, be⟩ => ⟨es, bs, be⟩, fun ⟨es, bs, be⟩ => ⟨es, bs, be⟩⟩

theorem enumName_not_mem_iff {e : EnumDecl} :
    c.enumName e ∉ c.takenByStructs ↔ (c.EnumGivesWay e → e.fullName ∉ c.takenByStructs) := by
  unfold enumName
  split
  · next gives => exact ⟨fun free _ => free, fun free => free gives⟩
  · next stays => exact ⟨fun _ gives => (stays gives).elim, fun _ => stays⟩

theorem bitmapName_not_mem_iff {b : BitmapDecl} :
    c.bitmapName b ∉ c.takenByStructs ↔
      (c.BitmapGivesWay b → b.fullName ∉ c.takenByStructs) := by
  unfold bitmapName
  split
  · next gives => exact ⟨fun free _ => free, fun free => free gives⟩
  · next stays =>
    refine ⟨fun _ gives => (stays gives).elim, fun _ taken => stays ?_⟩
    exact List.mem_append_left _ taken

/-- A bitmap and an enum part unless exactly one of them gives way, and to the name of the other. -/
theorem bitmapName_ne_enumName_iff {b : BitmapDecl} {e : EnumDecl} (he : e ∈ c.enums.toList)
    (suffixed : c.Suffixed) (hb : b ∈ c.bitmaps.toList) :
    c.bitmapName b ≠ c.enumName e ↔
      (c.EnumGivesWay e → ¬ c.BitmapGivesWay b → e.fullName ≠ b.typeName) ∧
        (c.BitmapGivesWay b → ¬ c.EnumGivesWay e → b.fullName ≠ e.typeName) := by
  unfold bitmapName enumName
  by_cases gb : c.BitmapGivesWay b <;> by_cases ge : c.EnumGivesWay e
  · simpa [gb, ge] using
      enum_fullName_ne_bitmap_fullName (suffixed.enums e he) (suffixed.bitmaps b hb)
  · simp [gb, ge]
  · simp [gb, ge, ne_comm]
  · -- A bitmap with the name of an enum would give way.
    have apart : b.typeName ≠ e.typeName := fun same =>
      gb (List.mem_append_right _ (List.mem_map.2 ⟨e, he, same.symm⟩))
    simp [gb, ge, apart]

/-- After resolution the type names of different categories are apart iff every declaration that has
to keep its suffix finds its full name free. -/
theorem typeNamesApart_resolve_iff (suffixed : c.Suffixed) :
    c.resolve.cluster.TypeNamesApart ↔ c.FullNamesFree := by
  rw [typeNamesApart_resolve_iff_names]
  constructor
  · rintro ⟨enums, bitmaps, pairs⟩
    refine ⟨fun e he => enumName_not_mem_iff.1 (enums e he),
      fun b hb => bitmapName_not_mem_iff.1 (bitmaps b hb), ?_, ?_⟩
    · intro e he gives b hb stays
      exact ((bitmapName_ne_enumName_iff he suffixed hb).1 (pairs b hb e he)).1 gives stays
    · intro b hb gives e he stays
      exact ((bitmapName_ne_enumName_iff he suffixed hb).1 (pairs b hb e he)).2 gives stays
  · intro free
    refine ⟨fun e he => enumName_not_mem_iff.2 (free.enum_struct e he),
      fun b hb => bitmapName_not_mem_iff.2 (free.bitmap_struct b hb), ?_⟩
    intro b hb e he
    refine (bitmapName_ne_enumName_iff he suffixed hb).2 ⟨?_, ?_⟩
    · exact fun gives stays => free.enum_bitmap e he gives b hb stays
    · exact fun gives stays => free.bitmap_enum b hb gives e he stays

/-- An enum and a bitmap that give way to a struct, each to a name of its own. -/
def dials : Cluster :=
  { id := 8
    idText := "0x0008"
    name := "Dials"
    enums := .ofList [EnumDecl.addItem { name := "DialEnum" } 0 "Off" ""]
    bitmaps := .ofList [BitmapDecl.addFlag { name := "DialBitmap" } 0 "Lit" ""]
    structs := .ofList [
      { name := "DialStruct"
        fields := [{ id := 0, name := "Level", typeName := "uint8" }] }] }

theorem typeNamesApart_resolve_iff_dials :
    dials.Suffixed ∧ dials.FullNamesFree ∧ dials.resolve.cluster.TypeNamesApart := by
  have suffixed : dials.Suffixed := ⟨by decide +kernel, by decide +kernel, by decide +kernel⟩
  have free : dials.FullNamesFree :=
    ⟨by decide +kernel, by decide +kernel, by decide +kernel, by decide +kernel⟩
  exact ⟨suffixed, free, (typeNamesApart_resolve_iff suffixed).2 free⟩

/-- The bitmap's short name is the enum's full name. -/
def nestedDials : Cluster :=
  { dials with bitmaps := .ofList [BitmapDecl.addFlag { name := "DialEnumBitmap" } 0 "Lit" ""] }

/-- The enum gives way to the struct and takes the type name of the bitmap, which keeps it: no enum
had it before. -/
theorem not_typeNamesApart_nestedDials :
    nestedDials.Suffixed ∧
      nestedDials.resolve.cluster.enums.toList.map EnumDecl.typeName = ["DialEnum"] ∧
      nestedDials.resolve.cluster.bitmaps.toList.map BitmapDecl.typeName = ["DialEnum"] ∧
      ¬ nestedDials.resolve.cluster.TypeNamesApart := by
  have enums : nestedDials.resolve.cluster.enums.toList.map EnumDecl.typeName = ["DialEnum"] := by
    decide +kernel
  have bitmaps :
      nestedDials.resolve.cluster.bitmaps.toList.map BitmapDecl.typeName = ["DialEnum"] := by
    decide +kernel
  refine ⟨⟨by decide +kernel, by decide +kernel, by decide +kernel⟩, enums, bitmaps, fun apart => ?_⟩
  rcases List.map_eq_singleton_iff.1 enums with ⟨e, es, he⟩
  rcases List.map_eq_singleton_iff.1 bitmaps with ⟨b, bs, hb⟩
  refine apart.bitmap_enum b ?_ e ?_ (hb.trans he.symm)
  · rw [bs]
    exact List.mem_singleton_self b
  · rw [es]
    exact List.mem_singleton_self e

end Cluster
end ClusterCodec

import ClusterCodec.Proofs.AttributeArms
import ClusterCodec.Proofs.DeclaredIntegers
import ClusterCodec.Proofs.ModulePieces
import Mathlib.Data.List.Nodup

/-!
# AttributeListing — the ids that a module dispatches and those that it lists

- `idText_injective`: the text of an id determines the id.
- `nodup_ids_numberedAttributes`, `Resolved.nodup_ids_jsonArms`: no id is listed twice, and none has
  two arms.
- `Resolved.definedOnce_of_mem_jsonArms`: an arm calls the decoder of an attribute, which the module
  defines once.
- `Resolved.AttributeListing`, `Resolved.attributeListing_of_hasAttributes`: all of that for a cluster
  with attributes.
-/

namespace ClusterCodec

open Text

/-! ## Ids -/

theorem Text.Numeral.hexId_injective : Function.Injective hexId := by
  intro m n same
  have value (k : Nat) : valueOf 16 (padded 4 (digits 16 false k)) = k := by
    rw [valueOf_padded, valueOf_digits (by decide) (by decide)]
  have chars := congrArg String.toList same
  rw [hexId, hexId, String.toList_append, String.toList_append] at chars
  have digits := String.ofList_injective (String.toList_injective (List.append_cancel_left chars))
  rw [← value m, digits, value n]

theorem idText_injective : Function.Injective idText :=
  fun _ _ same => UInt32.toNat_inj.1 (Numeral.hexId_injective same)

theorem nodup_ids_numberedAttributes (attrs : List Attribute) :
    ((numberedAttributes attrs).map Prod.fst).Nodup :=
  nodup_keys_keepFirst _ _

/-- The ids of the attributes are those that are declared as numbers. -/
theorem mem_ids_numberedAttributes_iff {attrs : List Attribute} {n : UInt32} :
    n ∈ (numberedAttributes attrs).map Prod.fst ↔ ∃ a ∈ attrs, a.numericId? = some n := by
  rw [numberedAttributes, mem_keys_keepFirst_iff, List.map_filterMap, List.mem_filterMap]
  simp [Function.comp_def]

namespace Resolved

variable {r : Resolved} {s : Settings}

/-! ## Arms -/

theorem nodup_ids_jsonArms (attrs : List Attribute) :
    ((r.jsonArms s attrs).map JsonArm.id).Nodup := by
  have keys := nodup_ids_numberedAttributes attrs
  rw [List.Nodup, List.pairwise_map] at keys ⊢
  rw [jsonArms, List.pairwise_filterMap]
  refine keys.imp fun apart arm found arm' found' => ?_
  rcases Option.map_eq_some_iff.1 found with ⟨d, -, rfl⟩
  rcases Option.map_eq_some_iff.1 found' with ⟨d', -, rfl⟩
  exact apart

theorem mem_attributes_of_mem_jsonArms {arm : JsonArm r}
    (h : arm ∈ r.jsonArms s (r.routedAttributes s)) :
    arm.decoder.attr ∈ r.cluster.attributes ∧ arm.decoder.attr.numericId? = some arm.id := by
  rcases find?_routedAttributes_eq_some_iff.1 (mem_jsonArms_iff.1 h).1 with
    ⟨before, after, split, ⟨id, -⟩, -⟩
  rw [split]
  exact ⟨List.mem_append_right _ (.head _), of_decide_eq_true id⟩

/-- An arm calls the decoder of an attribute, and no other piece of the module defines it. -/
theorem definedOnce_of_mem_jsonArms {arm : JsonArm r}
    (h : arm ∈ r.jsonArms s (r.routedAttributes s)) :
    ∃ c k, r.Defines s c k arm.decoder.attr.decoder ∧
      r.DefinedOnce s arm.decoder.attr.decoder (.item (.attr ⟨c, k⟩)) := by
  rcases find?_routedAttributes_eq_some_iff.1 (mem_jsonArms_iff.1 h).1 with
    ⟨before, after, split, ⟨-, reached⟩, -⟩
  rcases exists_defines_of_reached split reached with ⟨c, k, -, defines⟩
  have listed : (.item (.attr ⟨c, k⟩) : Piece r) ∈ r.pieces s :=
    perm_pieces.subset (List.mem_append_left _
      (mem_flatMap_itemPieces_iff.2 ⟨.attr c, .attr ⟨c, k⟩, defines.emitted, rfl⟩))
  exact ⟨c, k, defines, definedOnce_of_mem listed (congrArg ([·]) defines.decoder)⟩

/-! ## The two functions -/

/-- The module has the two functions. The arms of the first one have different ids, also as texts, each
calls the decoder of an attribute that one piece of the module defines, and each id is listed. The list
has each declared id once, with the first attribute that declares it. -/
structure AttributeListing (r : Resolved) (s : Settings) : Prop where
  dispatcher : r.DefinedOnce s dispatcherName .dispatcher
  attributeList : r.DefinedOnce s attributeListName .attributeList
  distinct : ((r.jsonArms s (r.routedAttributes s)).map JsonArm.id).Nodup
  patterns : ((r.jsonArms s (r.routedAttributes s)).map fun arm => idText arm.id).Nodup
  calls : ∀ arm ∈ r.jsonArms s (r.routedAttributes s), ∃ c k,
    r.Defines s c k arm.decoder.attr.decoder ∧
      r.DefinedOnce s arm.decoder.attr.decoder (.item (.attr ⟨c, k⟩))
  listed : ∀ arm ∈ r.jsonArms s (r.routedAttributes s),
    arm.id ∈ (numberedAttributes r.cluster.attributes).map Prod.fst
  once : ((numberedAttributes r.cluster.attributes).map Prod.fst).Nodup
  declared : ∀ n, n ∈ (numberedAttributes r.cluster.attributes).map Prod.fst ↔
    ∃ a ∈ r.cluster.attributes, a.numericId? = some n
  first : ∀ n a, (n, a) ∈ numberedAttributes r.cluster.attributes ↔
    r.cluster.attributes.find? (fun b => decide (b.numericId? = some n)) = some a

theorem attributeListing_of_hasAttributes (attributes : r.cluster.hasAttributes = true) :
    r.AttributeListing s where
  dispatcher := definedOnce_dispatcher attributes
  attributeList := definedOnce_attributeList attributes
  distinct := nodup_ids_jsonArms _
  patterns := by
    have ids := List.Nodup.map idText_injective
      (nodup_ids_jsonArms (r := r) (s := s) (r.routedAttributes s))
    rwa [List.map_map] at ids
  calls _ := definedOnce_of_mem_jsonArms
  listed arm h := mem_ids_numberedAttributes_iff.2
    ⟨_, mem_attributes_of_mem_jsonArms h⟩
  once := nodup_ids_numberedAttributes _
  declared _ := mem_ids_numberedAttributes_iff
  first _ _ := mem_numberedAttributes_iff

/-- One id is written in two ways, one is no number, one decoder is shared and one name is reserved. -/
def panel : Resolved :=
  let field (name : String) : Field := { id := 0, name, typeName := "uint8" }
  Cluster.resolve
    { id := 8
      idText := "0x0008"
      name := "Panel"
      attributes :=
        [⟨"1", field "Level"⟩, ⟨"0x0001", field "Mode"⟩, ⟨"main", field "Label"⟩,
          ⟨"2", field "Level"⟩, ⟨"3", field "AttributeJson"⟩] }

theorem attributeListing_panel :
    panel.cluster.hasAttributes = true ∧ panel.AttributeListing {} ∧
      (panel.jsonArms {} (panel.routedAttributes {})).map
          (fun arm => (arm.id, arm.decoder.attr.decoder)) =
        [(1, "decode_level"), (2, "decode_level")] ∧
      (numberedAttributes panel.cluster.attributes).map (fun p => (p.1, p.2.name)) =
        [(1, "Level"), (2, "Level"), (3, "AttributeJson")] := by
  have attributes : panel.cluster.hasAttributes = true := by decide +kernel
  exact ⟨attributes, attributeListing_of_hasAttributes attributes, by decide +kernel, by decide +kernel⟩

end Resolved
end ClusterCodec

import ClusterCodec.Xml.Event
import Mathlib.Data.List.Nodup

/-!
# TagKeys — no tag of a document has a key twice

- `keys_attributesFrom`: the keys that are read are distinct, since a key that was seen is passed.
- `keysDistinct_ofText`: so are the keys of each tag among the events of a text.
-/

namespace ClusterCodec
namespace Xml

/-! ## Attribute lists -/

/-- What is found has a new key, and no key is forgotten. -/
def AttributeStep.Keeps {size : Nat} (seen : List (List Char)) : AttributeStep size → Prop
  | .finished => True
  | .leftOut seen' _ => seen ⊆ seen'
  | .found key _ _ => key ∉ seen

theorem keeps_valueStep {seen : List (List Char)} {key : List Char} (fresh : key ∉ seen)
    (cs : List Char) : (valueStep seen key cs).Keeps seen := by
  unfold valueStep
  split
  · trivial
  · dsimp only
    split
    · split
      · trivial
      · exact fresh
    · exact List.subset_cons_self _ _

theorem keeps_attributeStep (seen : List (List Char)) (cs : List Char) :
    (attributeStep seen cs).Keeps seen := by
  unfold attributeStep
  split
  · trivial
  · dsimp only
    split
    · next value _ =>
        split
        · exact List.Subset.refl _
        · next fresh =>
            have kept := keeps_valueStep fresh value
            split
            · trivial
            · next step =>
                rw [step] at kept
                exact kept
            · next step =>
                rw [step] at kept
                exact kept
    · exact List.Subset.refl _

/-- The keys of the attributes are distinct, and none of them was there before. -/
theorem keys_attributesFrom (seen : List (List Char)) (cs : List Char) :
    ((attributesFrom seen cs).map Prod.fst).Nodup ∧
      ∀ a ∈ attributesFrom seen cs, a.1.toList ∉ seen := by
  -- Each step looks the key up among those it has seen, and adds it to them.
  fun_induction attributesFrom seen cs with
  | case1 => simp
  | case2 seen cs seen' rest step ih =>
      have grows := keeps_attributeStep seen cs
      rw [step] at grows
      exact ⟨ih.1, fun a inside old => ih.2 a inside (grows old)⟩
  | case3 seen cs key value rest step ih =>
      have fresh := keeps_attributeStep seen cs
      rw [step] at fresh
      constructor
      · rw [List.map_cons, List.nodup_cons]
        refine ⟨?_, ih.1⟩
        intro repeated
        rcases List.mem_map.1 repeated with ⟨a, inside, same⟩
        apply ih.2 a inside
        rw [same, String.toList_ofList]
        exact List.mem_cons_self
      · intro a inside
        rcases List.mem_cons.1 inside with rfl | later
        · rw [String.toList_ofList]
          exact fresh
        · exact fun old => ih.2 a later (List.mem_cons_of_mem _ old)

theorem Tag.nodup_keys_ofContent (content : List Char) :
    ((Tag.ofContent content).attributes.map Prod.fst).Nodup :=
  (keys_attributesFrom [] _).1

/-! ## Events -/

/-- The tag of an event, if it has one. -/
def Event.tag? : Event → Option Tag
  | start tag | empty tag => some tag
  | close | other => none

/-- The keys of the tag of an event, if it has one, are distinct. -/
def Event.KeysDistinct (e : Event) : Prop :=
  ∀ tag, e.tag? = some tag → (tag.attributes.map Prod.fst).Nodup

def Step.KeysDistinct {size : Nat} : Step size → Prop
  | event e _ _ => e.KeysDistinct
  | finished | fault _ => True

theorem keysDistinct_close : Event.close.KeysDistinct := nofun

theorem keysDistinct_other : Event.other.KeysDistinct := nofun

theorem keysDistinct_elementEvent (opened : List (List Char)) (content : List Char) :
    (elementEvent opened content).1.KeysDistinct := by
  unfold elementEvent
  split
  · rintro tag ⟨⟩
    exact Tag.nodup_keys_ofContent _
  · rintro tag ⟨⟩
    exact Tag.nodup_keys_ofContent _

theorem keysDistinct_otherStep {opened : List (List Char)} {mark : List Char}
    (nonempty : mark ≠ []) (fault : Fault) (cs : List Char) :
    (otherStep opened mark nonempty fault cs).KeysDistinct := by
  unfold otherStep
  split
  · trivial
  · exact keysDistinct_other

theorem keysDistinct_elementStep (opened : List (List Char)) (cs : List Char) :
    (elementStep opened cs).KeysDistinct := by
  unfold elementStep
  split
  · trivial
  · exact keysDistinct_elementEvent _ _

theorem keysDistinct_endStep (opened : List (List Char)) (cs : List Char) :
    (endStep opened cs).KeysDistinct := by
  unfold endStep
  split
  · trivial
  · dsimp only
    split
    · trivial
    · split
      · exact keysDistinct_close
      · trivial

theorem keysDistinct_commentStep (opened : List (List Char)) (cs : List Char) :
    (commentStep opened cs).KeysDistinct := by
  unfold commentStep
  split
  · next rest =>
      have passed : (otherStep opened ['-', '-', '>'] (by simp) .unclosedComment rest).KeysDistinct :=
        keysDistinct_otherStep _ _ _
      split
      · trivial
      · trivial
      · next step =>
          rw [step] at passed
          exact passed
  · trivial

theorem keysDistinct_characterDataStep (opened : List (List Char)) (cs : List Char) :
    (characterDataStep opened cs).KeysDistinct := by
  unfold characterDataStep
  split
  · exact keysDistinct_otherStep _ _ _
  · trivial

theorem keysDistinct_instructionStep (opened : List (List Char)) (cs : List Char) :
    (instructionStep opened cs).KeysDistinct := by
  unfold instructionStep
  split
  · trivial
  · exact keysDistinct_otherStep _ _ _

theorem keysDistinct_doctypeStep (opened : List (List Char)) (cs : List Char) :
    (doctypeStep opened cs).KeysDistinct := by
  unfold doctypeStep
  split
  · trivial
  · dsimp only
    split
    · trivial
    · split
      · trivial
      · exact keysDistinct_other

theorem keysDistinct_markupStep (opened : List (List Char)) (cs : List Char) :
    (markupStep opened cs).KeysDistinct := by
  unfold markupStep
  extract_lets grow
  have grown {m n : Nat} (bound : m ≤ n) {step : Step m} (distinct : step.KeysDistinct) :
      (grow bound step).KeysDistinct := by
    cases step <;> exact distinct
  split
  · trivial
  · exact grown (by simp) (keysDistinct_endStep _ _)
  · exact grown (by simp) (keysDistinct_instructionStep _ _)
  · exact grown (by simp) (keysDistinct_commentStep _ _)
  · exact grown (by simp) (keysDistinct_characterDataStep _ _)
  · split
    · exact grown (by simp) (keysDistinct_doctypeStep _ _)
    · trivial
  · exact keysDistinct_elementStep _ _

theorem keysDistinct_nextEvent (opened : List (List Char)) (cs : List Char) :
    (nextEvent opened cs).KeysDistinct := by
  unfold nextEvent
  split
  · trivial
  · exact keysDistinct_markupStep _ _
  · unfold referenceStep
    split
    · exact keysDistinct_other
    · trivial
  · exact keysDistinct_other

theorem keysDistinct_from (opened : List (List Char)) (cs : List Char) :
    ∀ e ∈ (Stream.from opened cs).events, e.KeysDistinct := by
  fun_induction Stream.from opened cs with
  | case1 => nofun
  | case2 => nofun
  | case3 opened cs event opened' rest step following ih =>
      have distinct := keysDistinct_nextEvent opened cs
      rw [step] at distinct
      intro e inside
      rcases List.mem_cons.1 inside with rfl | later
      · exact distinct
      · exact ih e later

theorem keysDistinct_ofText (text : String) : ∀ e ∈ (Stream.ofText text).events, e.KeysDistinct :=
  keysDistinct_from [] text.toList

end Xml
end ClusterCodec

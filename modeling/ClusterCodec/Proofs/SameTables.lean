import ClusterCodec.Module.Source
import ClusterCodec.Proofs.Expansion

/-!
# SameTables — resolved clusters that declare the same types

- `keepFirst_map`: the first entries of each key, after a map that keeps the keys.
- `SameTables`: the structs, enums and bitmaps of two resolved clusters are the same.
- `DeclaredStruct.transfer`, `Shape.transfer`, `Member.transfer`, `AttributeDecoder.transfer`: what
  belongs to the one cluster, in the other.
- `shape_transfer`, `members_transfer`, `layout_transfer`: types, members and layouts are the same.
- `text_attributeDecoder_transfer`, `dispatcherText_transfer`: so is the code made of them.
-/

namespace ClusterCodec

open Text

theorem keepFirstFrom_map {α β γ : Type} [DecidableEq γ] {key : α → γ} {key' : β → γ}
    {f : α → β}
    (keys : ∀ a, key' (f a) = key a) (seen : List γ) (l : List α) :
    keepFirstFrom key' seen (l.map f) = (keepFirstFrom key seen l).map f := by
  induction l generalizing seen with
  | nil => rfl
  | cons a l ih =>
      rw [List.map_cons, keepFirstFrom, keepFirstFrom, keys]
      split
      · exact ih seen
      · rw [ih, List.map_cons]

theorem keepFirst_map {α β γ : Type} [DecidableEq γ] {key : α → γ} {key' : β → γ}
    {f : α → β}
    (keys : ∀ a, key' (f a) = key a) (l : List α) :
    keepFirst key' (l.map f) = (keepFirst key l).map f :=
  keepFirstFrom_map keys [] l

/-! ## Shapes of declared structs -/

namespace Resolved

variable {r : Resolved} {owner : Option String} {name : String}

theorem shape_of_undeclared (missing : r.cluster.structs.get? name = none) :
    r.shape owner (.struct name) = .error (.otherCluster name) := by
  rw [shape]
  split
  · rfl
  · next found =>
      rw [missing] at found
      cases found

theorem shape_of_declared {d : StructDecl} (found : r.cluster.structs.get? name = some d) :
    r.shape owner (.struct name) =
      if owner.any (r.isRecursive · name) then .error (.recursive name)
      else .ok (.struct (r.declared found)) := by
  rw [shape]
  split
  · next missing =>
      rw [missing] at found
      cases found
  · next found' =>
      cases found.symm.trans found'
      rfl

end Resolved

/-! ## Resolved clusters with the same tables -/

/-- The declarations are the same. -/
structure SameTables (r r' : Resolved) : Prop where
  structs : r.cluster.structs = r'.cluster.structs
  enums : r.cluster.enums = r'.cluster.enums
  bitmaps : r.cluster.bitmaps = r'.cluster.bitmaps

section Transfer

variable {r r' : Resolved} (same : SameTables r r')

/-- A struct that the one cluster declares, as declared by the other. -/
def DeclaredStruct.transfer (t : DeclaredStruct r) : DeclaredStruct r' :=
  ⟨t.decl, same.structs ▸ t.declared⟩

def Shape.transfer : Shape r → Shape r'
  | .leaf l => .leaf l
  | .struct t => .struct (t.transfer same)

def Member.transfer (m : Member r) : Member r' :=
  ⟨m.field, m.shape.transfer same⟩

include same

theorem isRecursive_transfer (owner target : String) :
    r'.isRecursive owner target = r.isRecursive owner target := by
  rw [Resolved.isRecursive, Resolved.isRecursive, r.edges_eq, r'.edges_eq, same.structs]

theorem shape_transfer (owner : Option String) (t : TypeRef) :
    r'.shape owner t = (r.shape owner t).map (Shape.transfer same) := by
  cases t with
  | scalar name => rfl
  | enum name =>
      rw [Resolved.shape, Resolved.shape, same.enums]
      rfl
  | bitmap name =>
      rw [Resolved.shape, Resolved.shape, same.bitmaps]
      rfl
  | list entry => rfl
  | struct name =>
      -- The cycles are those of the same table of structs.
      have recursive : owner.any (r'.isRecursive · name) = owner.any (r.isRecursive · name) := by
        cases owner with
        | none => rfl
        | some owner => exact isRecursive_transfer same owner name
      cases found : r.cluster.structs.get? name with
      | none =>
          have missing : r'.cluster.structs.get? name = none := same.structs ▸ found
          rw [Resolved.shape_of_undeclared found, Resolved.shape_of_undeclared missing]
          rfl
      | some d =>
          have found' : r'.cluster.structs.get? name = some d := same.structs ▸ found
          rw [Resolved.shape_of_declared found, Resolved.shape_of_declared found', recursive]
          split <;> rfl

theorem fieldShape_transfer (owner : Option String) (f : Field) :
    r'.fieldShape owner f = (r.fieldShape owner f).map (Shape.transfer same) := by
  rw [Resolved.fieldShape, Resolved.fieldShape]
  split
  · rfl
  · exact shape_transfer same owner _
  · exact shape_transfer same owner _

theorem members_transfer (owner : Option String) (fields : List Field) :
    r'.members owner fields = (r.members owner fields).map (Member.transfer same) := by
  have member (f : Field) : (r'.member owner f).toOption =
      (r.member owner f).toOption.map (Member.transfer same) := by
    rw [Resolved.member, Resolved.member, fieldShape_transfer same]
    cases r.fieldShape owner f <;> rfl
  rw [Resolved.members, Resolved.members, funext member, ← List.map_filterMap]
  exact keepFirst_map (fun _ => rfl) _

theorem typeText_transfer (shape : Shape r) : (shape.transfer same).typeText = shape.typeText := by
  cases shape <;> rfl

theorem slotsOfStruct_transfer (t : DeclaredStruct r) :
    r'.slotsOfStruct (t.transfer same) = r.slotsOfStruct t := by
  induction bound : Resolved.depthBound t using Nat.strongRecOn generalizing t with
  | ind n ih =>
      rw [Resolved.slotsOfStruct_eq, Resolved.slotsOfStruct_eq, Resolved.slots, Resolved.slots]
      change Slots.ofList ((r'.members (some t.decl.name) t.decl.fields).map _) = _
      rw [members_transfer same, List.map_map]
      congr 1
      refine List.map_congr_left fun m inside => ?_
      refine Prod.ext rfl ?_
      change r'.layout (m.shape.transfer same) = r.layout m.shape
      cases shape : m.shape with
      | leaf l => rfl
      | struct u =>
          have deeper := Resolved.depthBound_lt inside shape
          exact congrArg _ (ih _ (bound ▸ deeper) u rfl)

theorem layout_transfer (shape : Shape r) : r'.layout (shape.transfer same) = r.layout shape := by
  cases shape with
  | leaf l => rfl
  | struct t => exact congrArg _ (slotsOfStruct_transfer same t)

theorem slots_transfer (owner : Option String) (fields : List Field) :
    r'.slots owner fields = r.slots owner fields := by
  rw [Resolved.slots, Resolved.slots, members_transfer same, List.map_map]
  congr 1
  exact List.map_congr_left fun m _ => Prod.ext rfl (layout_transfer same m.shape)

theorem recordType_transfer (name : String) (owner : Option String) (fields : List Field) :
    r'.recordType name owner fields = r.recordType name owner fields := by
  have field (m : Member r) : (m.transfer same).recordField = m.recordField := by
    rcases m with ⟨f, shape⟩
    cases shape with
    | leaf l => cases l <;> rfl
    | struct t => rfl
  rw [Resolved.recordType, Resolved.recordType, members_transfer same, List.map_map]
  exact congrArg _ (List.map_congr_left fun m _ => field m)

theorem compoundInits_transfer (owner : Option String) (fields : List Field) :
    r'.compoundInits owner fields = r.compoundInits owner fields := by
  rw [Resolved.compoundInits, slots_transfer same, Resolved.compoundInits]

theorem commandParam_transfer (access : String) (m : Member r) :
    r'.commandParam access (m.transfer same) = r.commandParam access m := by
  rcases m with ⟨f, shape⟩
  have layout := layout_transfer same shape
  cases shape with
  | leaf l => rfl
  | struct t =>
      change CommandParam.mk _ _ _ (Parameter.of f (r'.layout (Shape.transfer same (.struct t))) _) = _
      rw [layout]
      rfl

/-! ## Decoders of attributes -/

omit same in
def DecoderKind.transfer (same : SameTables r r') : DecoderKind r → DecoderKind r'
  | .optional shape => .optional (shape.transfer same)
  | .required shape => .required (shape.transfer same)
  | .list shape => .list (shape.transfer same)
  | .stub reason => .stub reason

omit same in
def AttributeDecoder.transfer (same : SameTables r r') (d : AttributeDecoder r) :
    AttributeDecoder r' :=
  ⟨d.attr, d.kind.transfer same⟩

theorem decoderKind?_transfer (s : Settings) (a : Attribute) :
    r'.decoderKind? s a = (r.decoderKind? s a).map (DecoderKind.transfer same) := by
  rw [Resolved.decoderKind?, Resolved.decoderKind?, fieldShape_transfer same]
  cases r.fieldShape none a.field with
  | ok shape =>
      simp only [Except.map]
      split_ifs <;> rfl
  | error reason => cases reason <;> rfl

theorem attributeDecoder?_transfer (s : Settings) (a : Attribute) :
    r'.attributeDecoder? s a = (r.attributeDecoder? s a).map (AttributeDecoder.transfer same) := by
  rw [Resolved.attributeDecoder?, Resolved.attributeDecoder?, decoderKind?_transfer same,
    Option.map_map, Option.map_map]
  rfl

theorem singleBody_transfer (strictness : Strictness) (shape : Shape r) :
    (shape.transfer same).singleBody strictness = shape.singleBody strictness := by
  cases shape with
  | leaf l => rfl
  | struct t => exact congrArg (compoundBody _ · strictness) (compoundInits_transfer same _ _)

theorem listBody_transfer (shape : Shape r) : (shape.transfer same).listBody = shape.listBody := by
  rw [Shape.listBody, layout_transfer same, Shape.listBody]

theorem text_attributeDecoder_transfer (d : AttributeDecoder r) :
    (d.transfer same).text = d.text := by
  rcases d with ⟨a, kind⟩
  have typeText : (kind.transfer same).typeText = kind.typeText := by
    cases kind with
    | optional shape => exact congrArg optionText (typeText_transfer same shape)
    | required shape => exact typeText_transfer same shape
    | list shape => exact congrArg (fun type => "Vec<" ++ type ++ ">") (typeText_transfer same shape)
    | stub reason => rfl
  have body : (AttributeDecoder.mk a (kind.transfer same)).body =
      (AttributeDecoder.mk a kind).body := by
    cases kind with
    | optional shape => exact singleBody_transfer same .optional shape
    | required shape => exact singleBody_transfer same .required shape
    | list shape => exact listBody_transfer same shape
    | stub reason => rfl
  have note : (AttributeDecoder.mk a (kind.transfer same)).note =
      (AttributeDecoder.mk a kind).note := by
    cases kind <;> rfl
  have argument : (AttributeDecoder.mk a (kind.transfer same)).argument =
      (AttributeDecoder.mk a kind).argument := by
    cases kind <;> rfl
  rw [AttributeDecoder.transfer, AttributeDecoder.text, AttributeDecoder.text, typeText, body, note,
    argument]

theorem jsonSource_transfer (kind : DecoderKind r) :
    (kind.transfer same).jsonSource = kind.jsonSource := by
  cases kind with
  | stub reason => rfl
  | optional shape =>
      cases shape with
      | leaf l => cases l <;> rfl
      | struct t => rfl
  | required shape =>
      cases shape with
      | leaf l => cases l <;> rfl
      | struct t => rfl
  | list shape =>
      cases shape with
      | leaf l => cases l <;> rfl
      | struct t => rfl

theorem text_jsonArms_transfer (s : Settings) (attrs : List Attribute) :
    (r'.jsonArms s attrs).map JsonArm.text = (r.jsonArms s attrs).map JsonArm.text := by
  rw [Resolved.jsonArms, Resolved.jsonArms, List.map_filterMap, List.map_filterMap]
  refine List.filterMap_congr fun p _ => ?_
  dsimp only
  rw [attributeDecoder?_transfer same]
  cases r.attributeDecoder? s p.2 with
  | none => rfl
  | some d =>
      have arm : (JsonArm.mk p.1 (d.transfer same)).text = (JsonArm.mk p.1 d).text := by
        simp only [JsonArm.text, AttributeDecoder.transfer, jsonSource_transfer same]
      exact congrArg some arm

theorem dispatcherText_transfer (sameId : r'.cluster.id = r.cluster.id) (s : Settings)
    (attrs : List Attribute) : r'.dispatcherText s attrs = r.dispatcherText s attrs := by
  rw [Resolved.dispatcherText, text_jsonArms_transfer same, sameId]
  rfl

end Transfer

end ClusterCodec

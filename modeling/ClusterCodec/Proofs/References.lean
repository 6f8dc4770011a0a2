import ClusterCodec.Proofs.KeptFields
import ClusterCodec.Proofs.NameOwnership
import Mathlib.Data.List.Nodup
import Mathlib.Data.Prod.Basic

/-!
# References — what a type name in the emitted code denotes

Code refers to an enum, a bitmap or a struct by the name of its type, but finds the declaration by
its name in the document.  Nothing ties the two together.

- `Cluster.declarations`: the enums, bitmaps and structs; no two have the same label.
- `Resolved.Reaches`, `Resolved.RefersTo`: the shapes that an item needs, in its own fields or in
  those of a struct that is written out inside it.
- `Resolved.Denotes`: a type name stands for a declaration.
- `denotes_iff_not_preceded`: it does unless an earlier item is emitted with a name of the
  declaration.
- `not_denotes_modes`: an event whose field has the type of a struct that was left out.
-/

namespace ClusterCodec

/-! ## Declarations -/

/-- What a report says about an item. -/
def Item.label (i : Item) : ItemKind × String :=
  (i.kind, i.name)

namespace Cluster

/-- The items that other items refer to. -/
def declarations (c : Cluster) : List Item :=
  c.enums.toList.map .enum ++ c.bitmaps.toList.map .bitmap ++ c.structs.toList.map .struct

/-- The items that no item refers to. -/
def functions (c : Cluster) : List Item :=
  c.commands.map .command ++ c.attributes.map .attr ++ c.responses.map .response ++
    c.events.map .event

theorem items_eq_append (c : Cluster) : c.items = c.declarations ++ c.functions := by
  simp only [items, declarations, functions, List.append_assoc]

theorem kind_of_mem_declarations {c : Cluster} {i : Item} (h : i ∈ c.declarations) :
    i.kind = .enum ∨ i.kind = .bitmap ∨ i.kind = .struct := by
  simp only [declarations, List.mem_append, List.mem_map] at h
  rcases h with (⟨_, _, rfl⟩ | ⟨_, _, rfl⟩) | ⟨_, _, rfl⟩
  · exact .inl rfl
  · exact .inr (.inl rfl)
  · exact .inr (.inr rfl)

theorem kind_of_mem_functions {c : Cluster} {i : Item} (h : i ∈ c.functions) :
    ¬ (i.kind = .enum ∨ i.kind = .bitmap ∨ i.kind = .struct) := by
  simp only [functions, List.mem_append, List.mem_map] at h
  rcases h with ((⟨_, _, rfl⟩ | ⟨_, _, rfl⟩) | ⟨_, _, rfl⟩) | ⟨_, _, rfl⟩ <;>
    simp [Item.kind]

theorem nodup_labels {α : Type} [Named α] (t : SymbolTable α) (kind : ItemKind) :
    (t.toList.map fun a => (kind, Named.name a)).Nodup := by
  have distinct := t.distinct.map (Prod.mk_right_injective kind)
  rwa [List.map_map] at distinct

theorem nodup_labels_declarations (c : Cluster) : (c.declarations.map Item.label).Nodup := by
  have labels : c.declarations.map Item.label =
      c.enums.toList.map (fun e => (.enum, Named.name e)) ++
        c.bitmaps.toList.map (fun b => (.bitmap, Named.name b)) ++
        c.structs.toList.map fun d => (.struct, Named.name d) := by
    simp only [declarations, List.map_append, List.map_map]
    rfl
  rw [labels, List.nodup_append, List.nodup_append]
  refine ⟨⟨nodup_labels _ _, nodup_labels _ _, ?_⟩, nodup_labels _ _, ?_⟩
  · intro a ha b hb same
    rcases List.mem_map.1 ha with ⟨e, -, rfl⟩
    rcases List.mem_map.1 hb with ⟨b, -, rfl⟩
    cases same
  · intro a ha b hb same
    rcases List.mem_map.1 hb with ⟨d, -, rfl⟩
    rcases List.mem_append.1 ha with ha | ha
    · rcases List.mem_map.1 ha with ⟨e, -, rfl⟩
      cases same
    · rcases List.mem_map.1 ha with ⟨b, -, rfl⟩
      cases same

end Cluster

namespace Resolved

variable {r : Resolved} {s : Settings} {i D : Item} {o o' : Outcome r}

theorem hasCode_of_mem_declarations (h : D ∈ r.cluster.declarations) : r.HasCode s D := by
  simp only [Cluster.declarations, List.mem_append, List.mem_map] at h
  rcases h with (⟨_, _, rfl⟩ | ⟨_, _, rfl⟩) | ⟨_, _, rfl⟩ <;> trivial

theorem definedFunctions_of_mem_declarations (h : D ∈ r.cluster.declarations) :
    definedFunctions D = [] := by
  simp only [Cluster.declarations, List.mem_append, List.mem_map] at h
  rcases h with (⟨_, _, rfl⟩ | ⟨_, _, rfl⟩) | ⟨_, _, rfl⟩ <;> rfl

theorem exists_outcome_of_mem_declarations (h : D ∈ r.cluster.declarations) :
    ∃ o, (D, o) ∈ r.outcomes s := by
  have mem : D ∈ (r.outcomes s).map Prod.fst := by
    rw [items_outcomes, Cluster.items_eq_append]
    exact List.mem_append_left _ h
  rcases List.mem_map.1 mem with ⟨⟨_, o⟩, ho, rfl⟩
  exact ⟨o, ho⟩

/-- A declaration is alone with its label. -/
theorem eq_of_label_eq (hD : D ∈ r.cluster.declarations) (h : (D, o) ∈ r.outcomes s)
    (h' : (i, o') ∈ r.outcomes s) (same : i.label = D.label) : (i, o') = (D, o) := by
  have items : (r.outcomes s).map Prod.fst = r.cluster.declarations ++ r.cluster.functions := by
    rw [items_outcomes, Cluster.items_eq_append]
  rcases List.map_eq_append_iff.1 items with ⟨front, back, split, hfront, hback⟩
  -- What follows the declarations is of other kinds.
  have inFront : ∀ p ∈ r.outcomes s, p.1.kind = D.kind → p ∈ front := by
    intro p hp kind
    rw [split] at hp
    rcases List.mem_append.1 hp with hp | hp
    · exact hp
    · have mem : p.1 ∈ r.cluster.functions := hback ▸ List.mem_map_of_mem hp
      exact (Cluster.kind_of_mem_functions mem
        (kind ▸ Cluster.kind_of_mem_declarations hD)).elim
  have nodup : (front.map fun p => p.1.label).Nodup := by
    have labels := r.cluster.nodup_labels_declarations
    rwa [← hfront, List.map_map] at labels
  exact List.inj_on_of_nodup_map nodup (inFront _ h' (Prod.mk.inj same).1) (inFront _ h rfl) same

/-! ## Shapes that an item needs -/

/-- The fields, seen from their owner, keep one of this shape, or one whose struct is written out
and needs the shape. -/
inductive Reaches (r : Resolved) : Option String → List Field → Shape r → Prop
  | here {owner : Option String} {fields : List Field} {m : Member r} :
      m ∈ r.members owner fields → Reaches r owner fields m.shape
  | inside {owner : Option String} {fields : List Field} {m : Member r} {t : DeclaredStruct r}
      {shape : Shape r} : m ∈ r.members owner fields → m.shape = .struct t →
        Reaches r (some t.decl.name) t.decl.fields shape → Reaches r owner fields shape

/-- The code of the item uses the type of the shape. -/
def RefersTo (r : Resolved) : Item → Shape r → Prop
  | .enum _, _ => False
  | .bitmap _, _ => False
  -- The type of a struct names the types of its fields and writes nothing out.
  | .struct d, shape => ∃ m ∈ r.members (some d.name) d.fields, m.shape = shape
  | .command c, shape => r.Reaches none c.fields shape
  | .attr a, shape => r.Reaches none [a.field] shape
  | .response p, shape => r.Reaches none p.fields shape
  | .event e, shape => r.Reaches none e.fields shape

end Resolved

/-- The declaration of a shape that has one. -/
def Shape.declaration? {r : Resolved} : Shape r → Option Item
  | .leaf (.enum e) => some (.enum e)
  | .leaf (.bitmap b) => some (.bitmap b)
  | .leaf _ => none
  | .struct t => some (.struct t.decl)

namespace Resolved

variable {r : Resolved} {s : Settings} {i D : Item}

/-- The name by which a shape is known is one that its declaration defines. -/
theorem typeText_mem_definedTypes {shape : Shape r} (h : shape.declaration? = some D) :
    shape.typeText ∈ r.definedTypes s D := by
  cases shape with
  | struct t =>
      cases h
      exact List.mem_singleton_self _
  | leaf l =>
      cases l with
      | enum e =>
          cases h
          exact List.mem_singleton_self _
      | bitmap b =>
          cases h
          exact List.mem_cons_self
      | int _ _ => cases h
      | bool => cases h
      | string => cases h
      | bytes => cases h

theorem declaration?_ofScalar (name : String) :
    (Shape.leaf (.ofScalar name) : Shape r).declaration? = none := by
  unfold Leaf.ofScalar
  split <;> rfl

theorem mem_declarations_of_shape {owner : Option String} {t : TypeRef} {shape : Shape r}
    (h : r.shape owner t = .ok shape) (hD : shape.declaration? = some D) :
    D ∈ r.cluster.declarations := by
  cases shape with
  | struct d =>
      cases hD
      refine List.mem_append_right _ ?_
      exact List.mem_map_of_mem (SymbolTable.get?_eq_some d.declared).1
  | leaf l =>
      -- A leaf has a declaration only where the table of enums or of bitmaps has the name.
      unfold Resolved.shape at h
      split at h
      · cases h
        rw [declaration?_ofScalar] at hD
        cases hD
      · next name =>
          cases h
          cases he : r.cluster.enums.get? name with
          | none =>
              rw [he] at hD
              cases hD
          | some e =>
              rw [he] at hD
              cases hD
              refine List.mem_append_left _ (List.mem_append_left _ ?_)
              exact List.mem_map_of_mem (SymbolTable.get?_eq_some he).1
      · next name =>
          cases h
          cases hb : r.cluster.bitmaps.get? name with
          | none =>
              rw [hb] at hD
              cases hD
          | some b =>
              rw [hb] at hD
              cases hD
              refine List.mem_append_left _ (List.mem_append_right _ ?_)
              exact List.mem_map_of_mem (SymbolTable.get?_eq_some hb).1
      · -- A reference to a struct has no leaf for its shape.
        split at h
        · cases h
        · split at h <;> cases h
      · cases h

theorem mem_declarations_of_fieldShape {owner : Option String} {f : Field} {shape : Shape r}
    (h : r.fieldShape owner f = .ok shape) (hD : shape.declaration? = some D) :
    D ∈ r.cluster.declarations := by
  unfold fieldShape at h
  split at h
  · cases h
  · exact mem_declarations_of_shape h hD
  · exact mem_declarations_of_shape h hD

theorem mem_declarations_of_reaches {owner : Option String} {fields : List Field}
    {shape : Shape r} (h : r.Reaches owner fields shape) (hD : shape.declaration? = some D) :
    D ∈ r.cluster.declarations := by
  induction h with
  | here hm =>
      exact mem_declarations_of_fieldShape (fieldShape_of_mem_members hm).2 hD
  | inside _ _ _ ih =>
      exact ih hD

/-- An item refers to nothing but what the cluster declares. -/
theorem mem_declarations_of_refersTo {shape : Shape r} (h : r.RefersTo i shape)
    (hD : shape.declaration? = some D) : D ∈ r.cluster.declarations := by
  cases i with
  | enum e =>
      exact h.elim
  | bitmap b =>
      exact h.elim
  | struct d =>
      rcases h with ⟨m, hm, rfl⟩
      exact mem_declarations_of_fieldShape (fieldShape_of_mem_members hm).2 hD
  | command c =>
      exact mem_declarations_of_reaches h hD
  | attr a =>
      exact mem_declarations_of_reaches h hD
  | response p =>
      exact mem_declarations_of_reaches h hD
  | event e =>
      exact mem_declarations_of_reaches h hD

/-! ## What a type name denotes -/

/-- The declaration is emitted with the name and not reported as skipped, and no other item is
emitted with the name. -/
structure Denotes (r : Resolved) (s : Settings) (n : String) (D : Item) : Prop where
  emitted : ∃ d, (D, .emitted d) ∈ r.outcomes s ∧ n ∈ d.typeNames
  notSkipped : ∀ record ∈ r.skipped s, (record.kind, record.source) ≠ D.label
  only : ∀ i d, (i, .emitted d) ∈ r.outcomes s → n ∈ d.typeNames → i = D

/-- An item before the declaration is emitted with a name that the declaration defines. -/
def Preceded (r : Resolved) (s : Settings) (D : Item) : Prop :=
  ∃ before o after, r.outcomes s = before ++ (D, o) :: after ∧
    ∃ n ∈ r.definedTypes s D, ∃ owner, Holds Definition.typeNames before n owner

/-- The record says that the declaration was left out because another emitted item has one of its
names. -/
structure ReportsLoss (r : Resolved) (s : Settings) (D : Item) (record : Skipped) : Prop where
  label : (record.kind, record.source) = D.label
  name : record.name ∈ r.definedTypes s D
  holder : ∃ i d, (i, .emitted d) ∈ r.outcomes s ∧ i ≠ D ∧ record.name ∈ d.typeNames ∧
    record.owner = i.owner

theorem eq_of_mem_typeNames {d e : Definition r} {n : String}
    (hi : (i, .emitted d) ∈ r.outcomes s) (hD : (D, .emitted e) ∈ r.outcomes s)
    (hd : n ∈ d.typeNames) (he : n ∈ e.typeNames) : i = D := by
  rcases eq_or_apart hi hD with ⟨same, -⟩ | apart
  · exact same
  · exact (apart.1 hd he).elim

theorem mem_skipped_iff {record : Skipped} :
    record ∈ r.skipped s ↔ ∃ i, (i, .skipped record) ∈ r.outcomes s := by
  rw [skipped, List.mem_filterMap]
  constructor
  · rintro ⟨⟨i, o⟩, ho, hr⟩
    have skippedAs : o = .skipped record := eq_skipped_of_record? hr
    exact ⟨i, skippedAs ▸ ho⟩
  · rintro ⟨i, hi⟩
    exact ⟨(i, .skipped record), hi, rfl⟩

theorem blocked_iff_of_mem_declarations {before : List (Item × Outcome r)}
    (h : D ∈ r.cluster.declarations) :
    r.Blocked s before D ↔
      ∃ n ∈ r.definedTypes s D, ∃ owner, Holds Definition.typeNames before n owner := by
  rw [Blocked, definedFunctions_of_mem_declarations h]
  simp

/-- A declaration is either emitted, or preceded and reported. -/
theorem emitted_or_reported (hD : D ∈ r.cluster.declarations) :
    ((∃ d, (D, .emitted d) ∈ r.outcomes s) ∧ ¬ r.Preceded s D) ∨
      ((∃ record, (D, .skipped record) ∈ r.outcomes s) ∧ r.Preceded s D) := by
  rcases exists_outcome_of_mem_declarations (s := s) hD with ⟨o, ho⟩
  rcases List.append_of_mem ho with ⟨before, after, split⟩
  have code : r.HasCode s D := hasCode_of_mem_declarations hD
  -- The declaration has one place, so that every split around it is this one.
  have alone : ∀ o', (D, o') ∈ r.outcomes s → o' = o := fun o' ho' =>
    (Prod.mk.inj (eq_of_label_eq hD ho ho' rfl)).2
  rcases xor_of_hasCode ho code with ⟨⟨d, rfl⟩, -⟩ | ⟨⟨record, rfl⟩, -⟩
  · refine .inl ⟨⟨d, ho⟩, ?_⟩
    rintro ⟨before', o', after', split', held⟩
    have member : (D, o') ∈ r.outcomes s := by
      rw [split']
      exact List.mem_append_right _ List.mem_cons_self
    rw [alone o' member] at split'
    exact (emitted_of_split split').2 ((blocked_iff_of_mem_declarations hD).2 held)
  · refine .inr ⟨⟨record, ho⟩, before, _, after, split, ?_⟩
    exact (blocked_iff_of_mem_declarations hD).1 ((skipped_iff_blocked split code).1 ⟨_, rfl⟩)

theorem reportsLoss_of_skipped (hD : D ∈ r.cluster.declarations) {record : Skipped}
    (h : (D, .skipped record) ∈ r.outcomes s) : r.ReportsLoss s D record := by
  rcases List.append_of_mem h with ⟨before, after, split⟩
  have explains := explains_of_split split
  refine ⟨Prod.ext explains.kind explains.source, ?_, ?_⟩
  · rcases explains.owner with ⟨hn, -⟩ | ⟨hn, -⟩
    · exact hn
    · rw [definedFunctions_of_mem_declarations hD] at hn
      cases hn
  · rcases explains.owner with ⟨-, holds⟩ | ⟨hn, -⟩
    · rcases (holds record.owner).2 rfl with ⟨i, d, hi, hd, owner⟩
      have member : (i, .emitted d) ∈ r.outcomes s := by
        rw [split]
        exact List.mem_append_left _ hi
      refine ⟨i, d, member, ?_, hd, owner⟩
      rintro rfl
      cases (Prod.mk.inj (eq_of_label_eq hD h member rfl)).2
    · rw [definedFunctions_of_mem_declarations hD] at hn
      cases hn

theorem denotes_of_not_preceded (hD : D ∈ r.cluster.declarations) {n : String}
    (hn : n ∈ r.definedTypes s D) (free : ¬ r.Preceded s D) : r.Denotes s n D := by
  rcases emitted_or_reported (s := s) hD with ⟨⟨d, hd⟩, -⟩ | ⟨-, preceded⟩
  · rcases List.append_of_mem hd with ⟨before, after, split⟩
    have names := (names_of_definition? (emitted_of_split split).1).1
    rw [← names] at hn
    refine ⟨⟨d, hd, hn⟩, ?_, ?_⟩
    · intro record hr same
      rcases mem_skipped_iff.1 hr with ⟨i, hi⟩
      rcases List.append_of_mem hi with ⟨before', after', split'⟩
      have explains := explains_of_split split'
      have label : i.label = D.label := by
        rw [← same, explains.kind, explains.source]
        rfl
      cases (Prod.mk.inj (eq_of_label_eq hD hd hi label)).2
    · intro i e hi he
      exact eq_of_mem_typeNames hi hd he hn
  · exact (free preceded).elim

/-- A type name in the code of an item denotes the declaration it was written for, unless an earlier
item is emitted with a name of that declaration.  Then the declaration is left out, and a record
gives the name and the item that has it. -/
theorem denotes_iff_not_preceded {shape : Shape r} (refers : r.RefersTo i shape)
    (declared : shape.declaration? = some D) :
    (r.Denotes s shape.typeText D ↔ ¬ r.Preceded s D) ∧
      (r.Preceded s D ↔ ∃ record ∈ r.skipped s, r.ReportsLoss s D record) := by
  have hD : D ∈ r.cluster.declarations := mem_declarations_of_refersTo refers declared
  have hn : shape.typeText ∈ r.definedTypes s D := typeText_mem_definedTypes declared
  refine ⟨⟨?_, denotes_of_not_preceded hD hn⟩, ?_, ?_⟩
  · rintro ⟨⟨d, hd, -⟩, -, -⟩
    rcases emitted_or_reported (s := s) hD with ⟨-, free⟩ | ⟨⟨record, skipped⟩, -⟩
    · exact free
    · cases (Prod.mk.inj (eq_of_label_eq hD hd skipped rfl)).2
  · intro preceded
    rcases emitted_or_reported (s := s) hD with ⟨-, free⟩ | ⟨⟨record, skipped⟩, -⟩
    · exact (free preceded).elim
    · exact ⟨record, mem_skipped_iff.2 ⟨D, skipped⟩, reportsLoss_of_skipped hD skipped⟩
  · rintro ⟨record, hr, reports⟩
    by_contra free
    exact (denotes_of_not_preceded hD hn free).notSkipped record hr reports.label

/-- An event with a field for each of two structs. -/
def modeChanged : Event :=
  { id := "0x00", name := "ModeChanged", priority := "info"
    fields := [
      { id := 0, name := "Current", typeName := "ModeEnumStruct" },
      { id := 1, name := "Previous", typeName := "ModeStruct" }] }

/-- One struct makes the enum keep its suffix, and with it the enum has the type name of the other
struct. -/
def modes : Resolved :=
  Cluster.resolve
    { id := 8
      idText := "0x0008"
      name := "Modes"
      enums := .ofList [EnumDecl.addItem { name := "ModeEnum" } 0 "Off" ""]
      structs := .ofList [
        { name := "ModeStruct"
          fields := [{ id := 0, name := "Level", typeName := "uint8" }] },
        { name := "ModeEnumStruct"
          fields := [{ id := 0, name := "Label", typeName := "string" }] }]
      events := [modeChanged] }

theorem skipped_modes : modes.skipped {} =
    [⟨.struct, "ModeEnumStruct", "ModeEnum", .item .enum "ModeEnum"⟩] := by
  decide +kernel

/-- The struct that is left out. -/
def labelStruct : DeclaredStruct modes :=
  ⟨{ name := "ModeEnumStruct", fields := [{ id := 0, name := "Label", typeName := "string" }] },
    by decide +kernel⟩

/-- The struct that is emitted. -/
def levelStruct : DeclaredStruct modes :=
  ⟨{ name := "ModeStruct", fields := [{ id := 0, name := "Level", typeName := "uint8" }] },
    by decide +kernel⟩

theorem refersTo_labelStruct : modes.RefersTo (.event modeChanged) (.struct labelStruct) := by
  let current : Field := { id := 0, name := "Current", typeName := "ModeEnumStruct" }
  let previous : Field := { id := 1, name := "Previous", typeName := "ModeStruct" }
  have shape : modes.fieldShape none current = .ok (.struct labelStruct) :=
    fieldShape_of_structName? (by decide +kernel) rfl
  have member : (⟨current, .struct labelStruct⟩ : Member modes) ∈
      modes.members none modeChanged.fields :=
    mem_members_iff.2 ⟨shape, [], [previous], rfl, fun g hg => by cases hg⟩
  exact .here member

theorem refersTo_levelStruct : modes.RefersTo (.event modeChanged) (.struct levelStruct) := by
  let current : Field := { id := 0, name := "Current", typeName := "ModeEnumStruct" }
  let previous : Field := { id := 1, name := "Previous", typeName := "ModeStruct" }
  have shape : modes.fieldShape none previous = .ok (.struct levelStruct) :=
    fieldShape_of_structName? (by decide +kernel) rfl
  have other : ∀ g ∈ [current], g.ident ≠ previous.ident := by
    decide +kernel
  have member : (⟨previous, .struct levelStruct⟩ : Member modes) ∈
      modes.members none modeChanged.fields :=
    mem_members_iff.2 ⟨shape, [current], [], rfl, fun g hg same => (other g hg same).elim⟩
  exact .here member

theorem emitted_modeChanged : ∃ d, (.event modeChanged, .emitted d) ∈ modes.outcomes {} :=
  emitted_of_isSome (by decide +kernel)

theorem not_denotes_labelStruct {n : String} :
    ¬ modes.Denotes {} n (.struct labelStruct.decl) := by
  intro denotes
  have skipped : (⟨.struct, "ModeEnumStruct", "ModeEnum", .item .enum "ModeEnum"⟩ : Skipped) ∈
      modes.skipped {} := by
    rw [skipped_modes]
    exact List.mem_singleton_self _
  exact denotes.notSkipped _ skipped rfl

/-- The event is emitted with a field of the type `ModeEnum`, and that is the enum. -/
theorem not_denotes_modes :
    (∃ d, (.event modeChanged, .emitted d) ∈ modes.outcomes {}) ∧
      modes.RefersTo (.event modeChanged) (.struct labelStruct) ∧
      Shape.declaration? (.struct labelStruct) = some (.struct labelStruct.decl) ∧
      Shape.typeText (.struct labelStruct) = "ModeEnum" ∧
      modes.skipped {} = [⟨.struct, "ModeEnumStruct", "ModeEnum", .item .enum "ModeEnum"⟩] ∧
      ¬ modes.Denotes {} (Shape.typeText (.struct labelStruct)) (.struct labelStruct.decl) := by
  exact ⟨emitted_modeChanged, refersTo_labelStruct, rfl, by decide +kernel, skipped_modes,
    not_denotes_labelStruct⟩

/-- Of the structs that the event refers to one is preceded and one is not. -/
theorem denotes_iff_not_preceded_modes :
    modes.RefersTo (.event modeChanged) (.struct labelStruct) ∧
      modes.RefersTo (.event modeChanged) (.struct levelStruct) ∧
      modes.Preceded {} (.struct labelStruct.decl) ∧
      ¬ modes.Preceded {} (.struct levelStruct.decl) ∧
      modes.Denotes {} (Shape.typeText (.struct levelStruct)) (.struct levelStruct.decl) := by
  have label := denotes_iff_not_preceded (s := {}) refersTo_labelStruct rfl
  have level := denotes_iff_not_preceded (s := {}) refersTo_levelStruct rfl
  have preceded : modes.Preceded {} (.struct labelStruct.decl) := by
    by_contra free
    exact not_denotes_labelStruct (label.1.2 free)
  have free : ¬ modes.Preceded {} (.struct levelStruct.decl) := by
    intro held
    rcases level.2.1 held with ⟨record, hr, reports⟩
    rw [skipped_modes, List.mem_singleton] at hr
    subst hr
    have names := (Prod.mk.inj reports.label).2
    revert names
    decide +kernel
  exact ⟨refersTo_labelStruct, refersTo_levelStruct, preceded, free, level.1.2 free⟩

end Resolved
end ClusterCodec

import ClusterCodec.Emit.Member

/-!
# KeptFields — which fields of a list are kept

The emitters share one choice of fields.  This file describes it without the search that makes it:

- `Resolved.KeepsField`: a field has a shape, and no field before it has a shape and its identifier.
- `mem_members_iff`, `mem_fields_members_iff`: the members are exactly these fields.
- `fieldShape_of_structName?`: which references to structs have a shape.
-/

namespace ClusterCodec
namespace Resolved

variable {r : Resolved} {owner : Option String} {fields : List Field}

/-! ## Members -/

/-- `f` stands in the list, has a shape, and is the first such field of its identifier. -/
def KeepsField (r : Resolved) (owner : Option String) (fields : List Field) (f : Field) : Prop :=
  ∃ before after, fields = before ++ f :: after ∧ (∃ s, r.fieldShape owner f = .ok s) ∧
    ∀ g ∈ before, g.ident = f.ident → ∃ e, r.fieldShape owner g = .error e

theorem toOption_member_eq_some_iff {f : Field} {m : Member r} :
    (r.member owner f).toOption = some m ↔ m.field = f ∧ r.fieldShape owner f = .ok m.shape := by
  unfold member
  cases hs : r.fieldShape owner f with
  | error e =>
      simp [Except.map, Except.toOption]
  | ok s =>
      rcases m with ⟨field, shape⟩
      simp only [Except.map, Except.toOption, Option.some.injEq, Member.mk.injEq, Except.ok.injEq]
      exact ⟨fun h => ⟨h.1.symm, h.2⟩, fun h => ⟨h.1.symm, h.2⟩⟩

theorem toOption_member_eq_none_iff {f : Field} :
    (r.member owner f).toOption = none ↔ ∃ e, r.fieldShape owner f = .error e := by
  unfold member
  cases hs : r.fieldShape owner f with
  | error e =>
      simp [Except.map, Except.toOption]
  | ok s =>
      simp [Except.map, Except.toOption]

theorem mem_members_iff {m : Member r} :
    m ∈ r.members owner fields ↔
      r.fieldShape owner m.field = .ok m.shape ∧
        ∃ before after, fields = before ++ m.field :: after ∧
          ∀ g ∈ before, g.ident = m.ident → ∃ e, r.fieldShape owner g = .error e := by
  rw [members, mem_keepFirst_iff]
  constructor
  · rintro ⟨before, after, split, first⟩
    rcases List.filterMap_eq_append_iff.1 split with ⟨front, back, rfl, hfront, hback⟩
    rcases List.filterMap_eq_cons_iff.1 hback with ⟨gap, f, rest, rfl, hgap, hf, -⟩
    rcases toOption_member_eq_some_iff.1 hf with ⟨rfl, hs⟩
    refine ⟨hs, front ++ gap, rest, by simp, ?_⟩
    intro g hg same
    rcases List.mem_append.1 hg with hg | hg
    · -- A field of the identifier with a shape would be a member before `m`.
      cases hshape : r.fieldShape owner g with
      | error e =>
          exact ⟨e, rfl⟩
      | ok s =>
          have mem : (⟨g, s⟩ : Member r) ∈ before := by
            rw [← hfront]
            exact List.mem_filterMap.2 ⟨g, hg, toOption_member_eq_some_iff.2 ⟨rfl, hshape⟩⟩
          exact (first ⟨g, s⟩ mem same).elim
    · exact toOption_member_eq_none_iff.1 (hgap g hg)
  · rintro ⟨hs, before, after, rfl, first⟩
    have hm : (r.member owner m.field).toOption = some m :=
      toOption_member_eq_some_iff.2 ⟨rfl, hs⟩
    refine ⟨before.filterMap fun f => (r.member owner f).toOption,
      after.filterMap fun f => (r.member owner f).toOption, ?_, ?_⟩
    · simp only [List.filterMap_append, List.filterMap_cons, hm]
    · intro b hb same
      rcases List.mem_filterMap.1 hb with ⟨g, hg, hgb⟩
      rcases toOption_member_eq_some_iff.1 hgb with ⟨rfl, hshape⟩
      rcases first _ hg same with ⟨e, he⟩
      rw [he] at hshape
      cases hshape

theorem mem_members_singleton {f : Field} {s : Shape r} (h : r.fieldShape owner f = .ok s) :
    ⟨f, s⟩ ∈ r.members owner [f] := by
  refine mem_members_iff.2 ⟨h, [], [], rfl, ?_⟩
  intro g hg
  cases hg

theorem mem_fields_members_iff {f : Field} :
    f ∈ (r.members owner fields).map Member.field ↔ r.KeepsField owner fields f := by
  rw [List.mem_map]
  constructor
  · rintro ⟨m, hm, rfl⟩
    rcases mem_members_iff.1 hm with ⟨hs, before, after, split, first⟩
    exact ⟨before, after, split, ⟨m.shape, hs⟩, first⟩
  · rintro ⟨before, after, split, ⟨s, hs⟩, first⟩
    exact ⟨⟨f, s⟩, mem_members_iff.2 ⟨hs, before, after, split, first⟩, rfl⟩

theorem fields_members_sublist (r : Resolved) (owner : Option String) (fields : List Field) :
    ((r.members owner fields).map Member.field).Sublist fields := by
  have shaped : ((fields.filterMap fun f => (r.member owner f).toOption).map Member.field).Sublist
      fields := by
    induction fields with
    | nil =>
        exact .slnil
    | cons f fields ih =>
        rw [List.filterMap_cons]
        cases hm : (r.member owner f).toOption with
        | none =>
            exact .cons _ ih
        | some m =>
            rw [List.map_cons, (toOption_member_eq_some_iff.1 hm).1]
            exact .cons_cons _ ih
  exact ((keepFirst_sublist _ _).map _).trans shaped

/-! ## References to structs -/

theorem shape_of_struct {t : DeclaredStruct r}
    (h : owner.any (r.isRecursive · t.decl.name) = false) :
    r.shape owner (.struct t.decl.name) = .ok (.struct t) := by
  simp only [shape]
  split
  · next undeclared =>
      rw [t.declared] at undeclared
      cases undeclared
  · next s declared =>
      have same : s = t.decl := Option.some.inj (declared.symm.trans t.declared)
      subst same
      simp [h, Resolved.declared]

theorem classify_of_structName? {name target : String}
    (h : (TypeRef.classify name).structName? = some target) :
    TypeRef.classify name = .struct target := by
  unfold TypeRef.classify at h ⊢
  grind [TypeRef.structName?]

/-- A reference to a declared struct has that struct as its shape unless it closes a cycle. -/
theorem fieldShape_of_structName? {f : Field} {t : DeclaredStruct r}
    (hf : f.structName? = some t.decl.name)
    (h : owner.any (r.isRecursive · t.decl.name) = false) :
    r.fieldShape owner f = .ok (.struct t) := by
  unfold Field.structName? at hf
  unfold fieldShape
  -- A list has the shape of its entries.
  cases hl : f.isList with
  | false =>
      have ref : f.typeRef = .classify f.typeName := by
        simp [Field.typeRef, hl]
      rw [ref] at hf ⊢
      rw [classify_of_structName? hf]
      exact shape_of_struct h
  | true =>
      have ref : f.typeRef = .list (f.entryType.map TypeRef.classify) := by
        simp [Field.typeRef, hl]
      rw [ref] at hf ⊢
      cases he : f.entryType with
      | none =>
          simp [he, TypeRef.structName?] at hf
      | some entry =>
          simp only [he, Option.map_some, TypeRef.structName?] at hf
          simp only [Option.map_some, classify_of_structName? hf]
          exact shape_of_struct h

end Resolved
end ClusterCodec

import ClusterCodec.Emit.Compound
import ClusterCodec.Emit.Parameter
import ClusterCodec.Proofs.DistinctIdentifiers

/-!
# BinderScopes — no generated binder shadows another one

- `Scopes`: the binders of an expression, each with what stands inside its scope.
- `Scopes.NoShadow`: no binder has the name of one around it.
- `Binder.rank`, `Scopes.Rises`: the ranks of binders rise from the outside to the inside. That is what
  one construction step keeps, and `Scopes.Rises.noShadow` says what it is kept for.
- `Layout.rises_decode`, `Slots.rises_inits`, `Layout.rises_encode`, `Slots.rises_pushes`: it holds of
  the expressions for every layout.
- `Resolved.no_binder_shadows`: so it does of those for the fields, values and parameters of a cluster.
-/

namespace ClusterCodec

open Text

/-! ## Names -/

/-- The text of a role ends in no digit, so that the name of a binder determines role and depth. -/
theorem Binder.text_injective : Function.Injective Binder.text := by
  rintro ⟨role, m⟩ ⟨other, n⟩ same
  have unnumbered (role other : BinderRole) : ¬ Numbered role.text other.text := by
    apply not_numbered
    cases role <;> decide
  have depths : m = n := by
    -- With other digits behind it, one role would be the other one and some of those digits.
    by_contra apart
    rcases numbered_of_append_decimal_eq apart same with numbered | numbered
    · exact unnumbered role other numbered
    · exact unnumbered other role numbered
  subst depths
  have roles : role.text = other.text := by
    have chars := congrArg String.toList same
    rw [text, text, String.toList_append, String.toList_append] at chars
    exact String.toList_injective (List.append_cancel_right chars)
  cases role <;> cases other <;> first | rfl | exact absurd roles (by decide)

/-! ## Scopes -/

/-- The scopes that stand one after another in an expression. -/
inductive Scopes where
  | nil
  | cons (binder : Binder) (inside rest : Scopes)
  deriving Repr

namespace Scopes

def append : Scopes → Scopes → Scopes
  | nil, others => others
  | cons b inside rest, others => cons b inside (rest.append others)

/-- The binders of all the scopes. -/
def binders : Scopes → List Binder
  | nil => []
  | cons b inside rest => b :: (inside.binders ++ rest.binders)

/-- No binder has one of the names around its scope, among them those of the binders around it. -/
def NoShadow : List String → Scopes → Prop
  | _, nil => True
  | around, cons b inside rest =>
    b.text ∉ around ∧ inside.NoShadow (b.text :: around) ∧ rest.NoShadow around

end Scopes

/-- Of two binders with one depth, the place of the second one when they are nested. -/
def BinderRole.place : BinderRole → Nat
  | nestedValue | list | encoded => 0
  | nestedItem | element | present => 1

/-- The order in which binders may be nested. -/
def Binder.rank (b : Binder) : Nat :=
  2 * b.depth + b.role.place

theorem Binder.rank_le (b : Binder) : b.rank ≤ 2 * b.depth + 1 := by
  rcases b with ⟨role, depth⟩
  cases role <;> simp [rank, BinderRole.place]

namespace Scopes

/-- Each binder has a higher rank than those around it, and the lowest rank is a given one. -/
def Rises : Nat → Scopes → Prop
  | _, nil => True
  | low, cons b inside rest =>
    low ≤ b.rank ∧ inside.Rises (b.rank + 1) ∧ rest.Rises low

variable {s : Scopes} {low : Nat}

theorem Rises.mono {lower : Nat} (rises : s.Rises low) (le : lower ≤ low) : s.Rises lower := by
  induction s with
  | nil => trivial
  | cons b inside rest _ ihRest =>
      rcases rises with ⟨first, within, behind⟩
      exact ⟨Nat.le_trans le first, within, ihRest behind⟩

theorem Rises.append {others : Scopes} (rises : s.Rises low) (behind : others.Rises low) :
    (s.append others).Rises low := by
  induction s with
  | nil => exact behind
  | cons b inside rest _ ihRest =>
      rcases rises with ⟨first, within, rest⟩
      exact ⟨first, within, ihRest rest⟩

theorem Rises.le_rank {b : Binder} (rises : s.Rises low) (opened : b ∈ s.binders) :
    low ≤ b.rank := by
  induction s generalizing low with
  | nil => cases opened
  | cons other inside rest ihInside ihRest =>
      rcases rises with ⟨first, within, behind⟩
      rcases List.mem_cons.1 opened with rfl | opened
      · exact first
      rcases List.mem_append.1 opened with opened | opened
      · exact Nat.le_of_succ_le (Nat.le_trans (Nat.succ_le_succ first) (ihInside within opened))
      · exact ihRest behind opened

/-- Names may only be shared by binders of one rank, so no name comes back inside its scope. -/
theorem Rises.noShadow {around : List Binder} (rises : s.Rises low)
    (below : ∀ b ∈ around, b.rank < low) : s.NoShadow (around.map Binder.text) := by
  induction s generalizing low around with
  | nil => trivial
  | cons b inside rest ihInside ihRest =>
      rcases rises with ⟨first, within, behind⟩
      refine ⟨?_, @ihInside _ (b :: around) within ?_, ihRest behind below⟩
      · intro named
        -- A binder of this name around the scope would be `b` itself, and its rank is too high for that.
        rcases List.mem_map.1 named with ⟨other, enclosing, same⟩
        cases Binder.text_injective same
        exact absurd (below b enclosing) (Nat.not_lt.2 first)
      · rintro other (_ | ⟨_, enclosing⟩)
        · exact Nat.lt_succ_self _
        · exact Nat.lt_succ_of_lt (Nat.lt_of_lt_of_le (below other enclosing) first)

/-- No binder has a depth below the start depth, and none shadows another one. -/
structure Apart (start : Nat) (s : Scopes) : Prop where
  depth : ∀ b ∈ s.binders, start ≤ b.depth
  noShadow : s.NoShadow []

theorem Rises.apart {start : Nat} (rises : s.Rises (2 * start)) : s.Apart start where
  depth b opened := by
    have reached := Nat.le_trans (rises.le_rank opened) b.rank_le
    omega
  noShadow := @Rises.noShadow s _ [] rises fun _ enclosing => nomatch enclosing

end Scopes

/-! ## Expressions that read -/

mutual

def Decode.scopes : Decode → Scopes
  | .leaf _ _ _ => .nil
  | .nested _ _ _ value nestedItem inits =>
    -- The item of a struct without fields is not bound.
    .cons value (if inits.isEmpty then .nil else .cons nestedItem inits.scopes .nil) .nil
  | .list _ _ list elements => .cons list elements.scopes .nil

def Elements.scopes : Elements → Scopes
  | .leaf _ element => .cons element .nil .nil
  | .records _ element inits =>
    -- The structs are first picked and then read.
    .cons element .nil (.cons element inits.scopes .nil)

def Inits.scopes : Inits → Scopes
  | .nil => .nil
  | .cons _ value rest => value.scopes.append rest.scopes

end

mutual

/-- The item of a nested struct is bound inside the scope of its value, and the fields are read from
the next depth on. -/
theorem Layout.rises_decode (item : Place) (id : UInt8) (depth : Nat) :
    (layout : Layout) → (layout.decode item id depth).scopes.Rises (2 * depth)
  | .leaf l => by
      rw [Layout.decode, Decode.scopes]
      trivial
  | .record decl slots => by
      have fields := slots.rises_inits (.bound ⟨.nestedItem, depth⟩) (depth + 1)
      rw [Layout.decode, Decode.scopes]
      refine ⟨Nat.le_refl _, ?_, trivial⟩
      split
      · trivial
      · exact ⟨Nat.le_refl _, fields, trivial⟩

theorem Layout.rises_elements (depth : Nat) :
    (layout : Layout) → (layout.elements depth).scopes.Rises (2 * depth + 1)
  | .leaf l => by
      rw [Layout.elements, Elements.scopes]
      exact ⟨Nat.le_refl _, trivial, trivial⟩
  | .record decl slots => by
      have fields := slots.rises_inits (.bound ⟨.element, depth⟩) (depth + 1)
      rw [Layout.elements, Elements.scopes]
      exact ⟨Nat.le_refl _, trivial, Nat.le_refl _, fields, trivial⟩

theorem Slots.rises_inits (item : Place) (depth : Nat) :
    (slots : Slots) → (slots.inits item depth).scopes.Rises (2 * depth)
  | .nil => by
      rw [Slots.inits, Inits.scopes]
      trivial
  | .cons f layout rest => by
      rw [Slots.inits, Inits.scopes]
      refine .append ?_ (rest.rises_inits item depth)
      split
      · -- List and elements share the depth, but the place of an element is the second one.
        rw [Decode.scopes]
        exact ⟨Nat.le_refl _, layout.rises_elements depth, trivial⟩
      · exact layout.rises_decode item f.id depth

end

/-! ## Expressions that write -/

mutual

def Encode.scopes : Encode → Scopes
  | .leaf _ _ => .nil
  | .record _ fields pushes =>
    -- A struct without fields is written as an empty vector.
    if pushes.isEmpty then .nil else .cons fields pushes.scopes .nil
  | .list _ element encoded => .cons element encoded.scopes .nil

def Pushes.scopes : Pushes → Scopes
  | .nil => .nil
  | .cons _ _ present _ _ encoded rest => .cons present encoded.scopes rest.scopes

end

def Parameter.scopes : Parameter → Scopes
  | .plain encoded => encoded.scopes
  | .compound _ present encoded _ => .cons present encoded.scopes .nil
  | .defaulted _ _ _ => .nil

mutual

theorem Layout.rises_encode (value : Value) (depth : Nat) (container : Container) :
    (layout : Layout) → (layout.encode value depth container).scopes.Rises (2 * depth)
  | .leaf l => by
      rw [Layout.encode, Encode.scopes]
      trivial
  | .record decl slots => by
      have pushes := slots.rises_pushes value.place (.bound ⟨.encoded, depth⟩) depth
      rw [Layout.encode, Encode.scopes]
      split
      · trivial
      · exact ⟨Nat.le_refl _, pushes, trivial⟩

/-- The values of the fields are bound inside the scope of the vector, at the same depth. -/
theorem Slots.rises_pushes (owner vector : Place) (depth : Nat) :
    (slots : Slots) → (slots.pushes owner vector depth).scopes.Rises (2 * depth + 1)
  | .nil => by
      rw [Slots.pushes, Pushes.scopes]
      trivial
  | .cons f layout rest => by
      rw [Slots.pushes, Pushes.scopes]
      refine ⟨Nat.le_refl _, ?_, rest.rises_pushes owner vector depth⟩
      split
      · have inside := layout.rises_encode (.boundTo ⟨.present, depth + 1⟩) (depth + 2) .anonymous
        rw [Encode.scopes]
        exact ⟨Nat.le_succ _, inside, trivial⟩
      · exact layout.rises_encode (.boundTo ⟨.present, depth⟩) (depth + 1) .invisible

end

theorem Layout.rises_encodeList (value : Value) (depth : Nat) (layout : Layout) :
    (layout.encodeList value depth).scopes.Rises (2 * depth + 1) := by
  have inside := layout.rises_encode (.boundTo ⟨.present, depth⟩) (depth + 1) .anonymous
  rw [Layout.encodeList, Encode.scopes]
  exact ⟨Nat.le_refl _, inside, trivial⟩

theorem Layout.rises_encodeField (f : Field) (value : Value) (depth : Nat) (layout : Layout) :
    (layout.encodeField f value depth).scopes.Rises (2 * depth) := by
  unfold Layout.encodeField
  split
  · exact (layout.rises_encodeList value depth).mono (Nat.le_succ _)
  · exact layout.rises_encode value depth .invisible

/-- The value of an optional parameter is bound at depth 0 and written from depth 1 on. -/
theorem Parameter.rises_of (f : Field) (layout : Layout) (source : String) :
    (Parameter.of f layout source).scopes.Rises 0 := by
  unfold Parameter.of
  split
  · exact layout.rises_encodeField f (.owned source) 0
  split
  · exact ⟨Nat.zero_le _, (layout.rises_encodeList _ 1).mono (Nat.le_succ _), trivial⟩
  · cases layout with
    | leaf l => trivial
    | record decl slots => exact ⟨Nat.zero_le _, Layout.rises_encode _ 1 .invisible _, trivial⟩

/-! ## Clusters -/

/-- Whatever the cluster, the fields and the expressions of the caller are, the binders that are opened
from a start depth on have no lower depth, and no binder has the name of one around it. The binder of
an optional parameter is one of those around its value. -/
theorem Resolved.no_binder_shadows (r : Resolved) (start : Nat) :
    (∀ owner fields item, ((r.slots owner fields).inits (.given item) start).scopes.Apart start) ∧
      (∀ shape, ((r.layout shape).elements start).scopes.Apart start) ∧
      (∀ owner fields value vector,
        ((r.slots owner fields).pushes (.given value) (.given vector) start).scopes.Apart start) ∧
      (∀ shape value container,
        ((r.layout shape).encode value start container).scopes.Apart start) ∧
      (∀ shape f value, ((r.layout shape).encodeField f value start).scopes.Apart start) ∧
      ∀ shape f source, (Parameter.of f (r.layout shape) source).scopes.Apart 0 := by
  refine ⟨?_, ?_, ?_, ?_, ?_, ?_⟩
  · exact fun owner fields item => (Slots.rises_inits _ start _).apart
  · exact fun shape => ((r.layout shape).rises_elements start).mono (Nat.le_succ _) |>.apart
  · exact fun owner fields value vector =>
      ((Slots.rises_pushes _ _ start _).mono (Nat.le_succ _)).apart
  · exact fun shape value container => ((r.layout shape).rises_encode value start container).apart
  · exact fun shape f value => ((r.layout shape).rises_encodeField f value start).apart
  · exact fun shape f source => (Parameter.rises_of f (r.layout shape) source).apart

/-- In a list of structs that hold a list, the binders of the inner list have the next depth. -/
example (zone : StructDecl) (names : Leaf) :
    let list (name : String) : Field := { id := 0, name, typeName := "list" }
    let zones := Slots.cons (list "Zones") (.record zone (.cons (list "Names") (.leaf names) .nil)) .nil
    (zones.inits (.given "item") 0).scopes.binders =
      [⟨.list, 0⟩, ⟨.element, 0⟩, ⟨.element, 0⟩, ⟨.list, 1⟩, ⟨.element, 1⟩] :=
  rfl

end ClusterCodec

import ClusterCodec.Emit.BitmapType
import ClusterCodec.Emit.Parameter
import ClusterCodec.Proofs.Expansion
import ClusterCodec.Schema.Representation

/-!
# TypeMapping — two readings of a type name

The type of a field is read twice: the schema says what a type name stands for on the wire and in the
generated source, and the codec gives a field a shape.  This file shows that both say the same:

- `Scalar.wire`, `typeTable_consistent`: in the type table a scalar decides the encoding.
- `isIntegerType_iff`, `Leaf.ofScalar_of_isIntegerType`: the names of integers, and their leaves.
- `Leaf.Represents`: encoding and type of a leaf are those of a type name.
- `Leaf.integer?`, `Leaf.Exact`: an integer leaf is encoded with the integer type of its values.
- `Encode.leaves`, `Parameter.leaves`: the leaves that an encoding expression writes.
- `Resolved.representation_agrees`: shapes of fields represent type names, and no integer is narrowed.
-/

namespace ClusterCodec

/-! ## The type table -/

/-- The encoding of the values of a scalar type. -/
def Scalar.wire : Scalar → WireTag
  | int type => .ofInt type
  | bool => .bool
  | string => .string
  | bytes => .octetString

theorem WireTag.int?_ofInt (type : IntType) : (WireTag.ofInt type).int? = some type := by
  cases type <;> rfl

/-- Every row but the one for lists has a scalar, which decides the encoding. -/
theorem typeTable_consistent :
    ∀ row ∈ typeTable, row.name = listType ∨ row.scalar.map Scalar.wire = some row.tag := by
  decide

theorem typeRow?_consistent {name : String} {row : TypeRow} (found : typeRow? name = some row)
    (single : name ≠ listType) : ∃ type, row.scalar = some type ∧ row.tag = type.wire := by
  have named : row.name = name := by
    simpa using List.find?_some found
  rcases typeTable_consistent row (List.mem_of_find?_eq_some found) with list | wire
  · exact absurd (named.symm.trans list) single
  · rcases Option.map_eq_some_iff.1 wire with ⟨type, declared, tag⟩
    exact ⟨type, declared, tag.symm⟩

/-- Each row is found by its name. -/
theorem typeRow?_name : ∀ row ∈ typeTable, typeRow? row.name = some row := by
  decide +kernel

/-- The names of integers are those with the scalar of an integer. -/
theorem isIntegerType_iff {name : String} :
    isIntegerType name = true ↔
      ∃ type, (typeRow? name).bind TypeRow.scalar = some (.int type) := by
  rw [isIntegerType, List.any_eq_true]
  constructor
  · rintro ⟨row, listed, integer⟩
    rw [Bool.and_eq_true, beq_iff_eq] at integer
    rcases integer with ⟨rfl, integer⟩
    rw [typeRow?_name row listed, Option.bind_some]
    split at integer
    · next type scalar => exact ⟨type, scalar⟩
    · cases integer
  · rintro ⟨type, declared⟩
    rcases Option.bind_eq_some_iff.1 declared with ⟨row, found, scalar⟩
    have named : row.name = name := by
      simpa using List.find?_some found
    refine ⟨row, List.mem_of_find?_eq_some found, ?_⟩
    rw [named, scalar, BEq.rfl]
    rfl

/-! ## Leaves -/

namespace Leaf

/-- The leaf for a scalar type. -/
def scalar : Scalar → Leaf
  | .int type => .int type (.ofInt type)
  | .bool => .bool
  | .string => .string
  | .bytes => .bytes

theorem wire_scalar (type : Scalar) : (scalar type).wire = type.wire := by
  cases type <;> rfl

theorem typeText_scalar (type : Scalar) : (scalar type).typeText = type.text := by
  cases type <;> rfl

/-- A name gives the leaf of its scalar, or of the scalar for what is not known. -/
theorem ofScalar_eq (name : String) :
    ofScalar name = scalar (((typeRow? name).bind TypeRow.scalar).getD fallbackScalar) := by
  unfold ofScalar
  by_cases list : name = listType
  · rw [list]
    decide
  · cases found : typeRow? name with
    | none => rfl
    | some row =>
        rcases typeRow?_consistent found list with ⟨type, declared, tag⟩
        rcases row with ⟨rowName, rowTag, rowScalar⟩
        dsimp only at declared tag
        subst declared tag
        cases type <;> rfl

/-- The leaf of such a name holds integers, and they are encoded as what they are. -/
theorem ofScalar_of_isIntegerType {name : String} (integer : isIntegerType name = true) :
    ∃ type, ofScalar name = .int type (.ofInt type) := by
  rcases isIntegerType_iff.1 integer with ⟨type, declared⟩
  refine ⟨type, ?_⟩
  rw [ofScalar_eq, declared]
  rfl

theorem wire_ofScalar {name : String} (single : name ≠ listType) :
    (ofScalar name).wire = ((typeRow? name).map TypeRow.tag).getD fallbackTag := by
  rw [ofScalar_eq, wire_scalar]
  cases found : typeRow? name with
  | none => rfl
  | some row =>
      rcases typeRow?_consistent found single with ⟨type, declared, tag⟩
      rw [Option.bind_some, declared, Option.map_some, Option.getD_some, Option.getD_some, tag]

/-- The leaf has the encoding of a type name, and its type. -/
structure Represents (l : Leaf) (c : Cluster) (typeName : String) : Prop where
  wire : l.wire = wireTagOf typeName (some c.bitmaps)
  typeText : l.typeText = (elementTypeOf typeName (some c.enums) (some c.bitmaps)).text

end Leaf

/-! ## Categories of type names -/

namespace TypeRef

/-- The name is none of a list or a struct. -/
def NamesLeaf (name : String) : Prop :=
  classify name = .scalar name ∨ classify name = .enum name ∨ classify name = .bitmap name

theorem ne_listType_of_namesLeaf {name : String} (leaf : NamesLeaf name) : name ≠ listType := by
  rintro rfl
  have list : classify listType = .list none := rfl
  rw [NamesLeaf, list] at leaf
  rcases leaf with impossible | impossible | impossible <;> cases impossible

end TypeRef

namespace Resolved

variable {r : Resolved}

/-- The shape of a name is found by the tests that the schema makes. -/
theorem shape_classify (owner : Option String) {name : String} (leaf : TypeRef.NamesLeaf name) :
    ∃ l : Leaf, r.shape owner (.classify name) = .ok (.leaf l) ∧ l.Represents r.cluster name := by
  have single := TypeRef.ne_listType_of_namesLeaf leaf
  unfold TypeRef.NamesLeaf at leaf
  -- The schema tests the endings in the order of the classification, so one split serves both.
  unfold TypeRef.classify at leaf ⊢
  rw [if_neg single] at leaf ⊢
  by_cases enum : hasSuffix enumSuffix name = true
  · rw [if_pos enum]
    refine ⟨_, rfl, ?_, ?_⟩
    · rw [wireTagOf, if_pos enum]
      cases r.cluster.enums.get? name <;> rfl
    · rw [elementTypeOf, if_pos enum, Option.bind_some]
      cases r.cluster.enums.get? name <;> rfl
  · rw [if_neg enum] at leaf ⊢
    by_cases bitmap : hasSuffix bitmapSuffix name = true
    · rw [if_pos bitmap]
      refine ⟨_, rfl, ?_, ?_⟩
      · rw [wireTagOf, if_neg enum, if_pos bitmap, Option.bind_some]
        cases r.cluster.bitmaps.get? name <;> rfl
      · rw [elementTypeOf, if_neg enum, if_pos bitmap, Option.bind_some]
        cases r.cluster.bitmaps.get? name <;> rfl
    · rw [if_neg bitmap] at leaf ⊢
      split at leaf
      · rcases leaf with impossible | impossible | impossible <;> cases impossible
      · next struct =>
          rw [if_neg struct]
          refine ⟨_, rfl, ?_, ?_⟩
          · rw [wireTagOf, if_neg enum, if_neg bitmap, Leaf.wire_ofScalar single]
          · rw [elementTypeOf, if_neg enum, if_neg bitmap, Leaf.ofScalar_eq, Leaf.typeText_scalar]
            rfl

end Resolved

/-! ## Integers -/

namespace Leaf

/-- The integer type of the values, if they are integers. A bitmap is another name for its type. -/
def integer? : Leaf → Option IntType
  | .int native _ => some native
  | .bitmap b => some b.bitmapType.base
  | .bool | .string | .bytes | .enum _ => none

/-- The encoding carries the integer type of the values. -/
def Exact (l : Leaf) : Prop :=
  ∀ type, l.integer? = some type → l.wire.int? = some type

theorem exact_scalar (type : Scalar) : (scalar type).Exact := by
  intro integer declared
  cases type with
  | int native =>
      cases declared
      exact WireTag.int?_ofInt integer
  | bool => cases declared
  | string => cases declared
  | bytes => cases declared

theorem exact_bitmap (b : BitmapDecl) : (Leaf.bitmap b).Exact := by
  intro integer declared
  cases declared
  exact WireTag.int?_ofInt b.baseType

theorem exact_enum (e : EnumDecl) : (Leaf.enum e).Exact := by
  intro integer impossible
  cases impossible

/-- What is encoded is the value itself, not a cast of it. -/
def Uncast (l : Leaf) : Prop :=
  (∀ v : Value, l.encodeText v = encodedText l.wire.text v.copied) ∧
    ∀ source literal, l.encodeOr source literal = encodedText l.wire.text (orLiteral source literal)

theorem Exact.uncast {l : Leaf} (exact : l.Exact) {type : IntType}
    (integer : l.integer? = some type) : l.Uncast := by
  cases l with
  | int native wire =>
      have same : wire.int? = some native := exact native rfl
      have kept (expr : String) : wireCast expr native wire = expr := by
        rw [wireCast, same]
        exact if_pos rfl
      refine ⟨fun v => ?_, fun source literal => ?_⟩
      · rw [encodeText, kept]
        rfl
      · rw [encodeOr, kept]
        rfl
  | bitmap b => exact ⟨fun _ => rfl, fun _ _ => rfl⟩
  | bool => cases integer
  | string => cases integer
  | bytes => cases integer
  | enum e => cases integer

end Leaf

namespace Resolved

variable {r : Resolved}

theorem exact_of_shape {owner : Option String} {t : TypeRef} {l : Leaf}
    (found : r.shape owner t = .ok (.leaf l)) : l.Exact := by
  have fallback : Leaf.fallback.Exact := Leaf.exact_scalar (.int .u8)
  unfold shape at found
  split at found
  · next name =>
      cases found
      rw [Leaf.ofScalar_eq]
      exact Leaf.exact_scalar _
  -- An undeclared enum or bitmap falls back to a scalar.
  · next name =>
      cases found
      cases r.cluster.enums.get? name with
      | none => exact fallback
      | some e => exact Leaf.exact_enum e
  · next name =>
      cases found
      cases r.cluster.bitmaps.get? name with
      | none => exact fallback
      | some b => exact Leaf.exact_bitmap b
  · split at found
    · cases found
    · split at found
      · cases found
      · cases found
  · cases found

theorem exact_of_fieldShape {owner : Option String} {f : Field} {l : Leaf}
    (found : r.fieldShape owner f = .ok (.leaf l)) : l.Exact := by
  unfold fieldShape at found
  split at found
  · cases found
  · exact exact_of_shape found
  · exact exact_of_shape found

end Resolved

/-! ## The leaves of an expression -/

mutual

def Layout.leaves : Layout → List Leaf
  | .leaf l => [l]
  | .record _ slots => slots.leaves

def Slots.leaves : Slots → List Leaf
  | .nil => []
  | .cons _ layout rest => layout.leaves ++ rest.leaves

end

mutual

/-- The leaves that an encoding expression writes, at any depth. -/
def Encode.leaves : Encode → List Leaf
  | .leaf l _ => [l]
  | .record _ _ pushes => pushes.leaves
  | .list _ _ encoded => encoded.leaves

def Pushes.leaves : Pushes → List Leaf
  | .nil => []
  | .cons _ _ _ _ _ encoded rest => encoded.leaves ++ rest.leaves

end

/-- The leaves that the encoding of a parameter writes. -/
def Parameter.leaves : Parameter → List Leaf
  | .plain encoded => encoded.leaves
  | .compound _ _ encoded _ => encoded.leaves
  | .defaulted l _ _ => [l]

mutual

/-- An expression writes the leaves of its layout. -/
theorem Layout.leaves_encode (value : Value) (depth : Nat) (container : Container) :
    (layout : Layout) → (layout.encode value depth container).leaves = layout.leaves
  | .leaf l => rfl
  | .record decl slots => by
      rw [Layout.encode, Encode.leaves, Layout.leaves]
      exact Slots.leaves_pushes value.place (.bound ⟨.encoded, depth⟩) depth slots

theorem Slots.leaves_pushes (owner vector : Place) (depth : Nat) :
    (slots : Slots) → (slots.pushes owner vector depth).leaves = slots.leaves
  | .nil => rfl
  | .cons f layout rest => by
      rw [Slots.pushes, Pushes.leaves, Slots.leaves, Slots.leaves_pushes owner vector depth rest]
      congr 1
      split
      · rw [Encode.leaves]
        exact Layout.leaves_encode _ _ _ layout
      · exact Layout.leaves_encode _ _ _ layout

end

theorem Layout.leaves_encodeField (f : Field) (value : Value) (depth : Nat) (layout : Layout) :
    (layout.encodeField f value depth).leaves = layout.leaves := by
  unfold Layout.encodeField
  split
  · exact Layout.leaves_encode _ _ _ layout
  · exact Layout.leaves_encode _ _ _ layout

theorem Parameter.leaves_of (f : Field) (layout : Layout) (source : String) :
    (Parameter.of f layout source).leaves = layout.leaves := by
  unfold Parameter.of
  dsimp only
  split
  · exact layout.leaves_encodeField f _ _
  · split
    · exact layout.leaves_encode _ _ _
    · cases layout with
      | leaf l => rfl
      | record decl slots => exact (Layout.record decl slots).leaves_encode _ _ .invisible

theorem Slots.mem_leaves_ofList {l : Leaf} {entries : List (Field × Layout)}
    (inside : l ∈ (Slots.ofList entries).leaves) : ∃ p ∈ entries, l ∈ p.2.leaves := by
  induction entries with
  | nil => cases inside
  | cons p entries ih =>
      rcases List.mem_append.1 inside with first | later
      · exact ⟨p, List.mem_cons_self, first⟩
      · rcases ih later with ⟨q, hq, inside⟩
        exact ⟨q, List.mem_cons_of_mem p hq, inside⟩

namespace Resolved

variable {r : Resolved}

theorem exact_of_mem_slots {owner : Option String} {fields : List Field}
    (below : ∀ m ∈ r.members owner fields, ∀ t, m.shape = .struct t →
      ∀ l ∈ (r.slotsOfStruct t).leaves, l.Exact)
    {l : Leaf} (inside : l ∈ (r.slots owner fields).leaves) : l.Exact := by
  rcases Slots.mem_leaves_ofList inside with ⟨p, hp, inside⟩
  rcases List.mem_map.1 hp with ⟨m, hm, rfl⟩
  have found := (fieldShape_of_mem_members hm).2
  cases shape : m.shape with
  | leaf leaf =>
      rw [shape] at found
      dsimp only at inside
      rw [shape] at inside
      cases List.mem_singleton.1 inside
      exact exact_of_fieldShape found
  | struct t =>
      dsimp only at inside
      rw [shape] at inside
      exact below m hm t shape l inside

theorem exact_of_mem_slotsOfStruct (t : DeclaredStruct r) :
    ∀ l ∈ (r.slotsOfStruct t).leaves, l.Exact := by
  refine nests_induction (P := fun t => ∀ l ∈ (r.slotsOfStruct t).leaves, l.Exact) ?_ t
  intro s ih l inside
  rw [slotsOfStruct_eq] at inside
  exact exact_of_mem_slots (fun m hm t ht => ih t ⟨m, hm, ht⟩) inside

theorem exact_of_mem_layout {owner : Option String} {f : Field} {shape : Shape r}
    (found : r.fieldShape owner f = .ok shape) : ∀ l ∈ (r.layout shape).leaves, l.Exact := by
  intro l inside
  cases shape with
  | leaf leaf =>
      cases List.mem_singleton.1 inside
      exact exact_of_fieldShape found
  | struct t =>
      exact exact_of_mem_slotsOfStruct t l inside

/-! ## Agreement -/

theorem fieldShape_single (owner : Option String) {f : Field}
    (leaf : TypeRef.NamesLeaf f.typeName) :
    r.fieldShape owner f = r.shape owner (.classify f.typeName) := by
  have single : f.isList = false := by
    rw [Field.isList]
    exact beq_false_of_ne (TypeRef.ne_listType_of_namesLeaf leaf)
  rw [fieldShape, Field.typeRef, single, if_neg Bool.false_ne_true]
  rcases leaf with same | same | same <;> rw [same]

theorem fieldShape_list (owner : Option String) {f : Field} {entry : String}
    (list : f.isList = true) (declared : f.entryType = some entry) :
    r.fieldShape owner f = r.shape owner (.classify entry) := by
  rw [fieldShape, Field.typeRef, if_pos list, declared]
  rfl

/-- A field whose type name, or whose entry type, is no list or struct has a leaf for its shape, with
the encoding and the type of the name, declared or not. Whatever shape a field has, the encodings of
the field and of a parameter for it write integers without a cast, at any depth: the encoding carries
the integer type of the values. -/
theorem representation_agrees (r : Resolved) (owner : Option String) (f : Field) :
    (TypeRef.NamesLeaf f.typeName → f.isList = false ∧
      ∃ l : Leaf, r.fieldShape owner f = .ok (.leaf l) ∧
        l.wire = wireTagOf f.typeName (some r.cluster.bitmaps) ∧
        (Shape.leaf l : Shape r).typeText =
          (nativeTypeOf f.typeName false (some r.cluster.enums) (some r.cluster.bitmaps)).text ∧
        (⟨f, .leaf l⟩ : Member r).typeText = (Shape.leaf l : Shape r).typeText) ∧
    (∀ entry, f.isList = true → f.entryType = some entry → TypeRef.NamesLeaf entry →
      ∃ l : Leaf, r.fieldShape owner f = .ok (.leaf l) ∧
        l.wire = wireTagOf entry (some r.cluster.bitmaps) ∧
        (⟨f, .leaf l⟩ : Member r).typeText =
          (nativeTypeOf entry true (some r.cluster.enums) (some r.cluster.bitmaps)).text) ∧
    ∀ shape : Shape r, r.fieldShape owner f = .ok shape →
      (∀ value depth, ∀ l ∈ ((r.layout shape).encodeField f value depth).leaves, ∀ type,
        l.integer? = some type → l.wire.int? = some type ∧ l.Uncast) ∧
      ∀ source, ∀ l ∈ (Parameter.of f (r.layout shape) source).leaves, ∀ type,
        l.integer? = some type → l.wire.int? = some type ∧ l.Uncast := by
  refine ⟨?_, ?_, ?_⟩
  · intro leaf
    have single : f.isList = false := beq_false_of_ne (TypeRef.ne_listType_of_namesLeaf leaf)
    rcases shape_classify (r := r) owner leaf with ⟨l, found, represents⟩
    refine ⟨single, l, ?_, represents.wire, ?_, ?_⟩
    · rw [fieldShape_single owner leaf, found]
    · rw [nativeTypeOf, Bool.false_or, ← Field.isList, single]
      exact represents.typeText
    · rw [Member.typeText, single]
      rfl
  · intro entry list declared leaf
    rcases shape_classify (r := r) owner leaf with ⟨l, found, represents⟩
    refine ⟨l, ?_, represents.wire, ?_⟩
    · rw [fieldShape_list owner list declared, found]
    · rw [Member.typeText, if_pos list, nativeTypeOf, Bool.true_or, if_pos rfl, NativeType.text,
        ← represents.typeText]
      rfl
  · intro shape found
    have exact := exact_of_mem_layout found
    refine ⟨?_, ?_⟩
    · intro value depth l inside type integer
      rw [Layout.leaves_encodeField] at inside
      exact ⟨exact l inside type integer, (exact l inside).uncast integer⟩
    · intro source l inside type integer
      rw [Parameter.leaves_of] at inside
      exact ⟨exact l inside type integer, (exact l inside).uncast integer⟩

/-- A bitmap with a bit above the first two bytes. -/
def doorStates : BitmapDecl :=
  { name := "DoorBitmap", flags := [⟨20, "Jammed", "JAMMED", ""⟩], keepSuffix := true }

/-- A cluster with the bitmap and without enums. -/
def door : Resolved :=
  .ofCluster { id := 257, idText := "0x0101", name := "Door", bitmaps := .ofList [doorStates] }

theorem representation_agrees_door :
    let states : Field := { id := 0, name := "States", typeName := "DoorBitmap" }
    let modes : Field :=
      { id := 1, name := "Modes", typeName := "list", entryType := some "ModeEnum" }
    TypeRef.NamesLeaf states.typeName ∧
      door.fieldShape none states = .ok (.leaf (.bitmap doorStates)) ∧
      (Leaf.bitmap doorStates).wire = .uint32 ∧ (Leaf.bitmap doorStates).typeText = "DoorBitmap" ∧
      (Leaf.bitmap doorStates).Uncast ∧
      modes.isList = true ∧ TypeRef.NamesLeaf "ModeEnum" ∧
      ∃ mode : Leaf, door.fieldShape none modes = .ok (.leaf mode) ∧ mode.wire = .uint8 ∧
        (⟨modes, .leaf mode⟩ : Member door).typeText = "Vec<u8>" := by
  intro states modes
  have category : TypeRef.classify states.typeName = .bitmap states.typeName := by
    rw [TypeRef.classify, if_neg (by decide), if_neg (by decide +kernel), if_pos (by decide +kernel)]
  have declared : door.cluster.bitmaps.get? states.typeName = some doorStates := by
    decide +kernel
  have found : door.fieldShape none states = .ok (.leaf (.bitmap doorStates)) := by
    rw [fieldShape_single none (.inr (.inr category)), category, shape, declared]
    rfl
  have stateWire : wireTagOf states.typeName (some door.cluster.bitmaps) = .uint32 := by
    decide +kernel
  have stateType : (nativeTypeOf states.typeName false (some door.cluster.enums)
      (some door.cluster.bitmaps)).text = "DoorBitmap" := by
    decide +kernel
  have modeWire : wireTagOf "ModeEnum" (some door.cluster.bitmaps) = .uint8 := by
    decide +kernel
  have modeType : (nativeTypeOf "ModeEnum" true (some door.cluster.enums)
      (some door.cluster.bitmaps)).text = "Vec<u8>" := by
    decide +kernel
  have enum : TypeRef.NamesLeaf "ModeEnum" := .inr (.inl rfl)
  rcases representation_agrees door none states with ⟨single, -, integers⟩
  rcases single (.inr (.inr category)) with ⟨-, state, same, wire, type, -⟩
  rw [found] at same
  cases same
  have written := (integers _ found).1 (.owned "states") 0 _ (List.mem_singleton_self _) .u32
    (by decide +kernel)
  rcases (representation_agrees door none modes).2.1 "ModeEnum" rfl rfl enum with
    ⟨mode, foundMode, wireMode, typeMode⟩
  exact ⟨.inr (.inr category), found, wire.trans stateWire, type.trans stateType, written.2, rfl,
    enum, mode, foundMode, wireMode.trans modeWire, typeMode.trans modeType⟩

end Resolved
end ClusterCodec

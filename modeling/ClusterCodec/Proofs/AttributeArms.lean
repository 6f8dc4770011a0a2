import ClusterCodec.Proofs.AttributeRun

/-!
# AttributeArms — what the dispatcher of a module does with an attribute id

- `mem_numberedAttributes_iff`, `mem_jsonArms_iff`: an id belongs to the first attribute that has it.
- `Resolved.Shadowed`: an attribute without code takes the id from one with code.
- `exists_arm_iff_not_shadowed`: an attribute that is emitted can be reached by id unless its id is
  shadowed.
- `DecoderKind.Agrees`, `Resolved.DecodedAlike`: two decoders have results of one form and type.
- `Resolved.Defines`: the attribute whose decoder the function is.
- `arm_agrees_iff`: an arm treats what it gets as the function returns it iff the attribute of the arm
  and the one that defines the function are decoded alike.
-/

namespace ClusterCodec

/-! ## Arms -/

/-- An id belongs to the first attribute that has it. -/
theorem mem_numberedAttributes_iff {attrs : List Attribute} {n : UInt32} {a : Attribute} :
    (n, a) ∈ numberedAttributes attrs ↔
      attrs.find? (fun b => decide (b.numericId? = some n)) = some a := by
  have numbered : ∀ b : Attribute,
      (b.numericId?.map (·, b)).any (fun p => decide (p.1 = n)) =
        decide (b.numericId? = some n) := by
    intro b
    cases b.numericId? <;> simp
  rw [numberedAttributes, mem_keepFirst_iff_find?, List.find?_filterMap, Option.bind_eq_some_iff]
  simp only [numbered, Option.map_eq_some_iff, Prod.mk.injEq]
  constructor
  · rintro ⟨b, found, m, -, rfl, rfl⟩
    exact found
  · intro found
    have id : a.numericId? = some n := by
      simpa using List.find?_some found
    exact ⟨a, found, n, id, rfl, rfl⟩

namespace Resolved

variable {r : Resolved} {s : Settings} {a : Attribute} {attrs : List Attribute} {n : UInt32}

theorem attributeDecoder?_eq_some_iff {d : AttributeDecoder r} :
    r.attributeDecoder? s a = some d ↔ d.attr = a ∧ r.decoderKind? s a = some d.kind := by
  rcases d with ⟨b, kind⟩
  simp only [attributeDecoder?, Option.map_eq_some_iff, AttributeDecoder.mk.injEq]
  constructor
  · rintro ⟨kind', found, rfl, rfl⟩
    exact ⟨rfl, found⟩
  · rintro ⟨rfl, found⟩
    exact ⟨kind, found, rfl, rfl⟩

/-- An id leads to the first attribute that has it, if that attribute has a decoder. -/
theorem mem_jsonArms_iff {arm : JsonArm r} :
    arm ∈ r.jsonArms s attrs ↔
      attrs.find? (fun b => decide (b.numericId? = some arm.id)) = some arm.decoder.attr ∧
        r.decoderKind? s arm.decoder.attr = some arm.decoder.kind := by
  rcases arm with ⟨n, d⟩
  simp only [jsonArms, List.mem_filterMap, Prod.exists, mem_numberedAttributes_iff,
    Option.map_eq_some_iff, JsonArm.mk.injEq, attributeDecoder?_eq_some_iff]
  constructor
  · rintro ⟨m, b, found, d, ⟨rfl, kind⟩, rfl, rfl⟩
    exact ⟨found, kind⟩
  · rintro ⟨found, kind⟩
    exact ⟨n, d.attr, found, d, ⟨rfl, kind⟩, rfl, rfl⟩

theorem exists_arm_iff :
    (∃ arm ∈ r.jsonArms s attrs, arm.id = n) ↔
      ∃ a, attrs.find? (fun b => decide (b.numericId? = some n)) = some a ∧
        r.HasCode s (.attr a) := by
  simp only [mem_jsonArms_iff]
  constructor
  · rintro ⟨arm, ⟨found, kind⟩, rfl⟩
    exact ⟨_, found, Option.isSome_iff_exists.2 ⟨_, kind⟩⟩
  · rintro ⟨a, found, code⟩
    rcases Option.isSome_iff_exists.1 code with ⟨kind, hkind⟩
    exact ⟨⟨n, a, kind⟩, ⟨found, hkind⟩, rfl⟩

/-! ## Ids that lead nowhere -/

/-- An attribute with this id has no code, but a decoder of its name is defined at its place, and no
attribute before it has the id and code that may be emitted. -/
def Shadowed (r : Resolved) (s : Settings) (n : UInt32) : Prop :=
  ∃ before b after, r.cluster.attributes = before ++ b :: after ∧ b.numericId? = some n ∧
    ¬ r.HasCode s (.attr b) ∧ r.Reached s before b ∧
      ∀ c ∈ before, c.numericId? = some n → r.HasCode s (.attr c) → c.decoder ∈ r.reservedFunctions

theorem reached_of_hasCode {before : List Attribute} (code : r.HasCode s (.attr a))
    (free : a.decoder ∉ r.reservedFunctions) : r.Reached s before a :=
  ⟨free, a, List.mem_append_right _ (List.mem_singleton_self a), code, rfl⟩

/-- The decoder of an attribute that is emitted is reached by the id of the attribute, unless the id
is shadowed. -/
theorem exists_arm_iff_not_shadowed {d : Definition r}
    (emitted : (.attr a, .emitted d) ∈ r.outcomes s) (id : a.numericId? = some n) :
    (∃ arm ∈ r.jsonArms s (r.routedAttributes s), arm.id = n) ↔ ¬ r.Shadowed s n := by
  rw [exists_arm_iff]
  simp only [find?_routedAttributes_eq_some_iff, decide_eq_true_eq]
  constructor
  · rintro ⟨x, first, code⟩ ⟨before, b, after, split, hb, lost, reached, earlier⟩
    -- The first attribute with the id has code, so that it stands before the one without.
    have place := eq_or_mem_of_firstWith first split ⟨hb, reached⟩
    rcases first with ⟨-, -, -, ⟨hx, free, -⟩, -⟩
    rcases place with rfl | mem
    · exact lost code
    · exact free (earlier x mem hx code)
  · intro visible
    rcases mem_outcomes_attr_iff.1 emitted with ⟨before, after, split, code, free, -⟩
    have reached : r.Reached s before a :=
      reached_of_hasCode (isSome_definition?_iff.1 (by rw [code]; rfl)) free
    have routed : ∃ x, FirstWith (fun before b => b.numericId? = some n ∧ r.Reached s before b)
        r.cluster.attributes x := exists_firstWith split ⟨id, reached⟩
    rcases routed with ⟨x, first⟩
    -- If the first attribute with the id had no code, it would be the one that shadows.
    refine ⟨x, first, by_contra fun lost => visible ?_⟩
    rcases first with ⟨front, back, place, ⟨hx, reached⟩, earlier⟩
    refine ⟨front, x, back, place, hx, lost, reached, fun c hc id code => by_contra fun free => ?_⟩
    rcases List.append_of_mem hc with ⟨before, after, rfl⟩
    exact earlier before c after rfl ⟨id, reached_of_hasCode code free⟩

def levelAttribute : Attribute :=
  { id := "0x0000", field := { id := 0, name := "Level", typeName := "uint8" } }

/-- It has the name of the first attribute and a struct of another cluster for its type. -/
def foreignAttribute : Attribute :=
  { id := "0x0001", field := { id := 0, name := "Level", typeName := "ScheduleStruct" } }

def modeAttribute : Attribute :=
  { id := "0x0001", field := { id := 0, name := "Mode", typeName := "uint8" } }

def lamp : Resolved :=
  Cluster.resolve
    { id := 8
      idText := "0x0008"
      name := "Lamp"
      attributes := [levelAttribute, foreignAttribute, modeAttribute] }

theorem emitted_levelAttribute : ∃ d, (.attr levelAttribute, .emitted d) ∈ lamp.outcomes {} :=
  emitted_of_isSome (by decide +kernel)

theorem emitted_modeAttribute : ∃ d, (.attr modeAttribute, .emitted d) ∈ lamp.outcomes {} :=
  emitted_of_isSome (by decide +kernel)

theorem exists_arm_lamp_iff {n : UInt32} :
    (∃ arm ∈ lamp.jsonArms {} (lamp.routedAttributes {}), arm.id = n) ↔ n = 0 := by
  have ids : (lamp.jsonArms {} (lamp.routedAttributes {})).map JsonArm.id = [0] := by
    decide +kernel
  rw [← List.mem_map, ids, List.mem_singleton]

/-- The decoder of the last attribute is emitted, but its id is not among the arms. -/
theorem not_exists_arm_lamp :
    (∃ d, (.attr modeAttribute, .emitted d) ∈ lamp.outcomes {}) ∧
      modeAttribute.numericId? = some 1 ∧
      ¬ ∃ arm ∈ lamp.jsonArms {} (lamp.routedAttributes {}), arm.id = 1 := by
  refine ⟨emitted_modeAttribute, by decide +kernel, ?_⟩
  rw [exists_arm_lamp_iff]
  decide

/-- Of the two ids one is reached and one is shadowed. -/
theorem exists_arm_iff_not_shadowed_lamp :
    (∃ d, (.attr levelAttribute, .emitted d) ∈ lamp.outcomes {}) ∧
      (∃ d, (.attr modeAttribute, .emitted d) ∈ lamp.outcomes {}) ∧
      levelAttribute.numericId? = some 0 ∧ modeAttribute.numericId? = some 1 ∧
      ¬ lamp.Shadowed {} 0 ∧ lamp.Shadowed {} 1 := by
  have level : levelAttribute.numericId? = some 0 := by decide +kernel
  have mode : modeAttribute.numericId? = some 1 := by decide +kernel
  rcases emitted_levelAttribute with ⟨d, emitted⟩
  rcases emitted_modeAttribute with ⟨e, emitted'⟩
  have reached := exists_arm_iff_not_shadowed emitted level
  have lost := exists_arm_iff_not_shadowed emitted' mode
  rw [exists_arm_lamp_iff] at reached lost
  refine ⟨⟨d, emitted⟩, ⟨e, emitted'⟩, level, mode, reached.1 rfl, by_contra fun visible => ?_⟩
  exact absurd (lost.2 visible) (by decide)

end Resolved

/-! ## Forms of decoders -/

/-- How a decoder gives its result. -/
inductive DecoderForm where
  | optional
  | required
  | list
  | stub
  deriving Repr, DecidableEq

namespace DecoderKind

variable {r : Resolved}

def form : DecoderKind r → DecoderForm
  | optional _ => .optional
  | required _ => .required
  | list _ => .list
  | stub _ => .stub

/-- The results have one form and one type. -/
def Agrees (k k' : DecoderKind r) : Prop :=
  k.form = k'.form ∧ k.typeText = k'.typeText

end DecoderKind

theorem optionText_inj {a b : String} : optionText a = optionText b ↔ a = b := by
  simp [optionText]

namespace Resolved

/-- The type of the values of an attribute, unless they cannot be decoded. -/
def valueType? (r : Resolved) (a : Attribute) : Option String :=
  (r.fieldShape none a.field).toOption.map Shape.typeText

/-- Neither attribute has values that can be decoded; or both have values of one type, both or
neither in a list, and single values are missing without an error for both or for neither. -/
def DecodedAlike (r : Resolved) (s : Settings) (a b : Attribute) : Prop :=
  r.valueType? a = r.valueType? b ∧ ((r.valueType? a).isSome = true →
    a.field.isList = b.field.isList ∧
      (a.field.isList = false → s.strictAttributes = true → a.field.nullable = b.field.nullable))

instance {r : Resolved} {s : Settings} {a b : Attribute} : Decidable (r.DecodedAlike s a b) :=
  inferInstanceAs (Decidable (_ ∧ _))

variable {r : Resolved} {s : Settings} {a b : Attribute}

theorem decoderKind?_of_ok {shape : Shape r} (h : r.fieldShape none a.field = .ok shape) :
    r.decoderKind? s a =
      some (if a.field.isList then .list shape
        else if s.strictAttributes && !a.field.nullable then .required shape
        else .optional shape) := by
  simp only [decoderKind?, h]
  split
  · rfl
  · split <;> rfl

theorem eq_stub_of_error {e : Omission} {k : DecoderKind r}
    (h : r.fieldShape none a.field = .error e) (hk : r.decoderKind? s a = some k) :
    k = .stub e := by
  simp only [decoderKind?, h] at hk
  cases e <;> cases hk <;> rfl

theorem agrees_iff_decodedAlike {k k' : DecoderKind r} (hk : r.decoderKind? s a = some k)
    (hk' : r.decoderKind? s b = some k') : k.Agrees k' ↔ r.DecodedAlike s a b := by
  unfold DecodedAlike DecoderKind.Agrees valueType?
  cases ha : r.fieldShape none a.field with
  | error e =>
      cases eq_stub_of_error ha hk
      cases hb : r.fieldShape none b.field with
      | error e' =>
          cases eq_stub_of_error hb hk'
          simp [DecoderKind.form, DecoderKind.typeText, Except.toOption]
      | ok y =>
          rw [decoderKind?_of_ok hb, Option.some.injEq] at hk'
          subst hk'
          split_ifs <;> simp [DecoderKind.form, Except.toOption]
  | ok x =>
      rw [decoderKind?_of_ok ha, Option.some.injEq] at hk
      subst hk
      cases hb : r.fieldShape none b.field with
      | error e' =>
          cases eq_stub_of_error hb hk'
          split_ifs <;> simp [DecoderKind.form, Except.toOption]
      | ok y =>
          rw [decoderKind?_of_ok hb, Option.some.injEq] at hk'
          subst hk'
          -- The forms depend on the list marks, and without lists on the settings and on what may be
          -- missing.
          cases a.field.isList <;> cases b.field.isList <;> cases s.strictAttributes <;>
            cases a.field.nullable <;> cases b.field.nullable <;>
            simp [DecoderKind.form, DecoderKind.typeText, optionText_inj, Except.toOption]

/-! ## The function that an arm calls -/

/-- The function is emitted for the attribute, which is the first one with code and a decoder of this
name, and nothing else defines it. -/
structure Defines (r : Resolved) (s : Settings) (c : Attribute) (k : DecoderKind r) (f : String) :
    Prop where
  decoder : c.decoder = f
  first : ∃ before after, r.cluster.attributes = before ++ c :: after ∧
    ∀ b ∈ before, r.HasCode s (.attr b) → b.decoder ≠ f
  emitted : (.attr c, .emitted (.attr ⟨c, k⟩)) ∈ r.outcomes s
  only : ∀ i d, (i, .emitted d) ∈ r.outcomes s → f ∈ d.functionNames →
    i = .attr c ∧ d = .attr ⟨c, k⟩

theorem definition?_attr_eq_some_iff {d : Definition r} :
    r.definition? s (.attr a) = some d ↔ ∃ k, r.decoderKind? s a = some k ∧ d = .attr ⟨a, k⟩ := by
  simp only [definition?, Option.map_eq_some_iff, attributeDecoder?_eq_some_iff]
  constructor
  · rintro ⟨⟨b, k⟩, ⟨rfl, hk⟩, rfl⟩
    exact ⟨k, hk, rfl⟩
  · rintro ⟨k, hk, rfl⟩
    exact ⟨⟨a, k⟩, ⟨rfl, hk⟩, rfl⟩

theorem defines_of_emitted {d : Definition r} (emitted : (.attr a, .emitted d) ∈ r.outcomes s) :
    ∃ k, r.decoderKind? s a = some k ∧ r.Defines s a k a.decoder := by
  rcases mem_outcomes_attr_iff.1 emitted with ⟨before, after, split, code, -, earlier⟩
  rcases definition?_attr_eq_some_iff.1 code with ⟨k, hk, rfl⟩
  refine ⟨k, hk, rfl, ⟨before, after, split, earlier⟩, emitted, fun i e he hf => ?_⟩
  rcases eq_or_apart he emitted with same | apart
  · exact same
  · exact (apart.2 hf (List.mem_singleton_self _)).elim

/-- A decoder that is reached is the one of the first attribute with code and this name. -/
theorem exists_defines_of_reached {before after : List Attribute}
    (split : r.cluster.attributes = before ++ a :: after) (reached : r.Reached s before a) :
    ∃ c k, r.decoderKind? s c = some k ∧ r.Defines s c k a.decoder := by
  rcases reached with ⟨free, b, hb, code, same⟩
  rcases List.append_of_mem (List.mem_append_left after hb) with ⟨front, back, place⟩
  rw [List.append_assoc, List.singleton_append, ← split] at place
  -- The first attribute with code and this decoder finds the name free.
  rcases exists_firstWith (P := fun _ b => r.HasCode s (.attr b) ∧ b.decoder = a.decoder) place
    ⟨code, same⟩ with ⟨c, front, back, place, ⟨code, same⟩, earlier⟩
  rcases Option.isSome_iff_exists.1 (isSome_definition?_iff.2 code) with ⟨d, hd⟩
  have emitted : (.attr c, .emitted d) ∈ r.outcomes s := by
    rw [← same] at free
    refine mem_outcomes_attr_iff.2 ⟨front, back, place, hd, free, fun x hx code eq => ?_⟩
    rcases List.append_of_mem hx with ⟨front, back, rfl⟩
    exact earlier front x back rfl ⟨code, eq.trans same⟩
  rcases defines_of_emitted emitted with ⟨k, hk, defines⟩
  rw [same] at defines
  exact ⟨c, k, hk, defines⟩

/-- An arm calls a function that is emitted for one attribute.  It treats what it gets as that
function returns it iff its own attribute and that one are decoded alike. -/
theorem arm_agrees_iff {arm : JsonArm r} (h : arm ∈ r.jsonArms s (r.routedAttributes s)) :
    ∃ c k, r.Defines s c k arm.decoder.attr.decoder ∧
      (arm.decoder.kind.Agrees k ↔ r.DecodedAlike s arm.decoder.attr c) := by
  rcases mem_jsonArms_iff.1 h with ⟨found, kind⟩
  rcases find?_routedAttributes_eq_some_iff.1 found with ⟨before, after, split, ⟨-, reached⟩, -⟩
  rcases exists_defines_of_reached split reached with ⟨c, k, hk, defines⟩
  exact ⟨c, k, defines, agrees_iff_decodedAlike kind hk⟩

def countAttribute : Attribute :=
  { id := "0x0000", field := { id := 0, name := "Data", typeName := "uint8" } }

/-- It has the name of the first attribute and octet strings for values. -/
def bytesAttribute : Attribute :=
  { id := "0x0001", field := { id := 0, name := "Data", typeName := "octstr" } }

def sensor : Resolved :=
  Cluster.resolve
    { id := 9
      idText := "0x0009"
      name := "Sensor"
      attributes := [countAttribute, bytesAttribute] }

theorem emitted_countAttribute : ∃ d, (.attr countAttribute, .emitted d) ∈ sensor.outcomes {} :=
  emitted_of_isSome (by decide +kernel)

theorem jsonArms_sensor :
    (sensor.jsonArms {} (sensor.routedAttributes {})).map (fun arm => (arm.id, arm.decoder.attr)) =
      [(0, countAttribute), (1, bytesAttribute)] := by
  decide +kernel

theorem not_decodedAlike_sensor : ¬ sensor.DecodedAlike {} bytesAttribute countAttribute := by
  decide +kernel

/-- The second arm treats the number that its function returns as an octet string. -/
theorem not_agrees_sensor :
    ∃ arm ∈ sensor.jsonArms {} (sensor.routedAttributes {}), ∃ k,
      sensor.Defines {} countAttribute k arm.decoder.attr.decoder ∧
        ¬ arm.decoder.kind.Agrees k := by
  have second : (1, bytesAttribute) ∈ (sensor.jsonArms {} (sensor.routedAttributes {})).map
      fun arm => (arm.id, arm.decoder.attr) := by
    rw [jsonArms_sensor]
    exact List.mem_cons_of_mem _ List.mem_cons_self
  rcases List.mem_map.1 second with ⟨arm, harm, same⟩
  rcases Prod.mk.inj same with ⟨-, attr⟩
  rcases emitted_countAttribute with ⟨d, emitted⟩
  rcases defines_of_emitted emitted with ⟨k, hk, defines⟩
  refine ⟨arm, harm, k, attr ▸ defines, ?_⟩
  rw [agrees_iff_decodedAlike (mem_jsonArms_iff.1 harm).2 hk, attr]
  exact not_decodedAlike_sensor

theorem decodedAlike_sensor : sensor.DecodedAlike {} countAttribute countAttribute := by
  decide +kernel

/-- Both arms call the function of the first attribute, and the first one treats its result right. -/
theorem arm_agrees_iff_sensor :
    (sensor.jsonArms {} (sensor.routedAttributes {})).map JsonArm.id = [0, 1] ∧
      ∀ arm ∈ sensor.jsonArms {} (sensor.routedAttributes {}), ∃ k,
        sensor.Defines {} countAttribute k arm.decoder.attr.decoder ∧
          (arm.decoder.kind.Agrees k ↔ arm.id = 0) := by
  refine ⟨congrArg (List.map Prod.fst) jsonArms_sensor, fun arm harm => ?_⟩
  rcases arm_agrees_iff harm with ⟨c, k, defines, agrees⟩
  have place : (arm.id, arm.decoder.attr) ∈ [(0, countAttribute), (1, bytesAttribute)] := by
    rw [← jsonArms_sensor]
    exact List.mem_map_of_mem harm
  have ids : arm.decoder.attr.decoder = countAttribute.decoder ∧
      (sensor.DecodedAlike {} arm.decoder.attr countAttribute ↔ arm.id = 0) := by
    rcases List.mem_cons.1 place with first | second
    · rcases Prod.mk.inj first with ⟨id, attr⟩
      rw [id, attr]
      exact ⟨rfl, iff_of_true decodedAlike_sensor rfl⟩
    · rcases Prod.mk.inj (List.mem_singleton.1 second) with ⟨id, attr⟩
      rw [id, attr]
      exact ⟨rfl, iff_of_false not_decodedAlike_sensor (by decide)⟩
  rcases emitted_countAttribute with ⟨d, emitted⟩
  rcases defines_of_emitted emitted with ⟨k', -, owner⟩
  -- The function has one definition only.
  cases (defines.only _ _ owner.emitted (List.mem_singleton.2 ids.1)).1
  exact ⟨k, defines, agrees.trans ids.2⟩

end Resolved
end ClusterCodec

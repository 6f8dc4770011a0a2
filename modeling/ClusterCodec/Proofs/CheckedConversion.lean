import ClusterCodec.Emit.Encode
import ClusterCodec.Proofs.EnumAgreement
import Mathlib.Data.List.Nodup

/-!
# CheckedConversion — the variant that a wire integer stands for

- `IntType.cut`: what a cast leaves of an integer.
- `EnumType.Returns`, `Call.Gives`: what a constructor returns, by the rules for its body, and what a
  call gives for a wire integer.
- `EnumDecl.Selects`: the variant declared with a value, or none.
- `EnumDecl.gives_iff`: a call gives the variant of what the cast leaves of the wire integer.
- `EnumDecl.Aliased`: a wire integer of which the cast leaves the value of an item.
- `EnumDecl.conversion_checked`: a call gives the variant of any other wire integer; and what becomes
  of the byte that is written for a variant.
- `not_conversion_checked_boost`: a wire integer and a variant that lose bits.
-/

namespace ClusterCodec

open Text

/-! ## Casts -/

/-- What a cast to the type leaves of an integer: its lowest bits, read with the sign of the type. -/
def IntType.cut (t : IntType) (n : Int) : Int :=
  if t.isSigned then n.bmod (2 ^ t.bits) else n % 2 ^ t.bits

theorem IntType.cut_of_holds {t : IntType} {n : Int} (holds : t.Holds n) : t.cut n = n := by
  unfold Holds at holds
  unfold cut
  split
  · next signed =>
      rw [if_pos signed] at holds
      have half : (2 : Int) ^ t.bits = 2 * 2 ^ (t.bits - 1) := by
        cases t <;> rfl
      refine Int.bmod_eq_of_le_mul_two ?_ ?_
      · push_cast
        omega
      · push_cast
        omega
  · next unsigned =>
      rw [if_neg unsigned] at holds
      exact Int.emod_eq_of_lt holds.1 holds.2

/-- The value of an operand whose 64-bit expression has the value `n`. -/
def Operand.value (n : Int) : Operand → Int
  | whole _ => n
  | cast _ type => type.cut n

theorem Operand.value_of {n : Int} (word : IntType.u64.Holds n) (type : IntType) (expr : String) :
    (of type expr).value n = type.cut n := by
  rw [of]
  split
  · next whole =>
      rw [whole]
      exact (IntType.cut_of_holds word).symm
  · rfl

/-! ## What a constructor returns -/

/-- The constructor for an argument type returns a variant, or none, for an integer. -/
inductive EnumType.Returns (t : EnumType) : IntType → Int → Option String → Prop where
  | never {type : IntType} {n : Int} :
      ⟨type, .never⟩ ∈ t.checkedConstructors → Returns t type n none
  /-- The first arm with the integer is taken. -/
  | arm {type : IntType} {n : Int} {arms : List (UInt64 × String)} {arm : UInt64 × String} :
      ⟨type, .choose arms⟩ ∈ t.checkedConstructors →
      arms.find? (fun a => decide ((a.1.toNat : Int) = n)) = some arm →
      Returns t type n (some arm.2)
  | noArm {type : IntType} {n : Int} {arms : List (UInt64 × String)} :
      ⟨type, .choose arms⟩ ∈ t.checkedConstructors →
      (∀ a ∈ arms, (a.1.toNat : Int) ≠ n) →
      Returns t type n none
  | widen {type wide : IntType} {n : Int} {result : Option String} :
      ⟨type, .widen wide⟩ ∈ t.checkedConstructors → Returns t wide n result →
      Returns t type n result

/-- The call gives a variant of the enum, or none, where its 64-bit expression has the value `n`. -/
def Call.Gives (c : Call) (t : EnumType) (n : Int) (result : Option String) : Prop :=
  t.Returns c.argument (c.operand.value n) result

/-- The result is the variant declared with the value, or none if no item has the value. -/
def EnumDecl.Selects (e : EnumDecl) (n : Int) (result : Option String) : Prop :=
  (∃ v ∈ e.enumType.variants, (v.value.toNat : Int) = n ∧ result = some v.ident) ∨
    (∀ i ∈ e.items, (i.value.toNat : Int) ≠ n) ∧ result = none

namespace EnumDecl

variable {e : EnumDecl} {n : Int} {result : Option String}

theorem mem_variants_value_iff {value : UInt64} :
    (∃ v ∈ e.enumType.variants, v.value = value) ↔ ∃ i ∈ e.items, i.value = value := by
  have same : value ∈ e.enumType.variants.map EnumVariant.value ↔
      value ∈ e.items.map EnumItem.value := by
    rw [values_enumType, List.mem_eraseDups]
  rwa [List.mem_map, List.mem_map] at same

/-- No two variants have one value. -/
theorem variant_unique {v w : EnumVariant} (hv : v ∈ e.enumType.variants)
    (hw : w ∈ e.enumType.variants) (same : v.value = w.value) : v = w := by
  have distinct : (e.enumType.variants.map EnumVariant.value).Nodup := by
    rw [enumType, List.map_map]
    exact nodup_keys_keepFirst EnumItem.value e.items
  exact List.inj_on_of_nodup_map distinct hv hw same

theorem selects_of_variant {v : EnumVariant} (listed : v ∈ e.enumType.variants) :
    e.Selects v.value.toNat result ↔ result = some v.ident := by
  constructor
  · rintro (⟨w, hw, same, rfl⟩ | ⟨without, -⟩)
    · have value : w.value = v.value := UInt64.toNat_inj.1 (Int.ofNat_inj.1 same)
      rw [variant_unique hw listed value]
    · rcases mem_variants_value_iff.1 ⟨v, listed, rfl⟩ with ⟨i, hi, same⟩
      exact absurd (by rw [same]) (without i hi)
  · rintro rfl
    exact .inl ⟨v, listed, rfl, rfl⟩

theorem selects_of_no_item (noItem : ∀ i ∈ e.items, (i.value.toNat : Int) ≠ n) :
    e.Selects n result ↔ result = none := by
  constructor
  · rintro (⟨v, hv, same, -⟩ | ⟨-, none⟩)
    · rcases mem_variants_value_iff.1 ⟨v, hv, rfl⟩ with ⟨i, hi, value⟩
      exact absurd (by rw [value]; exact same) (noItem i hi)
    · exact none
  · exact fun none => .inr ⟨noItem, none⟩

/-- An enum has one constructor for its integer type. -/
theorem mem_checkedConstructors_repr_iff {body : ConstructorBody} :
    ⟨e.repr, body⟩ ∈ e.enumType.checkedConstructors ↔
      (e.items = [] ∧ body = .never) ∨ (e.items ≠ [] ∧ body = .choose e.enumType.arms) := by
  by_cases empty : e.items = []
  · rw [checkedConstructors_of_no_items empty, List.mem_singleton]
    simp [empty]
  · have other : (⟨e.repr, body⟩ : Constructor) ∉
        (if e.repr = .u8 then [] else [⟨.u8, .widen e.repr⟩] : List Constructor) := by
      split
      · exact List.not_mem_nil
      · next wide =>
          intro listed
          exact wide (congrArg Constructor.argument (List.mem_singleton.1 listed))
    rw [checkedConstructors_eq empty, List.mem_append, List.mem_singleton]
    simp [empty, other, EnumType.arms]

theorem forall_arms_ne_iff : (∀ a ∈ e.enumType.arms, (a.1.toNat : Int) ≠ n) ↔
    ∀ i ∈ e.items, (i.value.toNat : Int) ≠ n := by
  constructor
  · intro noArm i hi same
    rcases mem_variants_value_iff.2 ⟨i, hi, rfl⟩ with ⟨v, hv, value⟩
    refine noArm (v.value, v.ident) (List.mem_map_of_mem hv) ?_
    rw [← same, ← value]
  · intro noItem a ha same
    rcases List.mem_map.1 ha with ⟨v, hv, rfl⟩
    rcases mem_variants_value_iff.1 ⟨v, hv, rfl⟩ with ⟨i, hi, value⟩
    exact noItem i hi (by rw [value]; exact same)

/-- The arm that is taken for the value of a variant is the arm of the variant. -/
theorem find?_arms_iff {ident : String} :
    (∃ a, e.enumType.arms.find? (fun a => decide ((a.1.toNat : Int) = n)) = some a ∧
        ident = a.2) ↔
      ∃ v ∈ e.enumType.variants, (v.value.toNat : Int) = n ∧ ident = v.ident := by
  constructor
  · rintro ⟨a, found, rfl⟩
    rcases List.mem_map.1 (List.mem_of_find?_eq_some found) with ⟨v, hv, rfl⟩
    exact ⟨v, hv, by simpa using List.find?_some found, rfl⟩
  · rintro ⟨v, hv, same, rfl⟩
    have some : (e.enumType.arms.find? fun a => decide ((a.1.toNat : Int) = n)).isSome = true := by
      rw [List.find?_isSome]
      exact ⟨(v.value, v.ident), List.mem_map_of_mem hv, decide_eq_true same⟩
    rcases Option.isSome_iff_exists.1 some with ⟨a, found⟩
    rcases List.mem_map.1 (List.mem_of_find?_eq_some found) with ⟨w, hw, rfl⟩
    have taken : (w.value.toNat : Int) = n := by
      simpa using List.find?_some found
    have value : w.value = v.value := UInt64.toNat_inj.1 (Int.ofNat_inj.1 (taken.trans same.symm))
    exact ⟨_, found, by rw [variant_unique hw hv value]⟩

/-- The constructor for the type of the enum returns the variant with the value, if there is one. -/
theorem returns_repr_iff : e.enumType.Returns e.repr n result ↔ e.Selects n result := by
  constructor
  · intro returned
    -- Every rule names a constructor of the enum, and only one of them has this argument type.
    cases returned with
    | never listed =>
        rcases mem_checkedConstructors_repr_iff.1 listed with ⟨empty, -⟩ | ⟨-, impossible⟩
        · refine .inr ⟨fun i hi => ?_, rfl⟩
          rw [empty] at hi
          cases hi
        · cases impossible
    | arm listed found =>
        rcases mem_checkedConstructors_repr_iff.1 listed with ⟨-, impossible⟩ | ⟨-, same⟩
        · cases impossible
        · cases same
          rcases find?_arms_iff.1 ⟨_, found, rfl⟩ with ⟨v, hv, value, ident⟩
          exact .inl ⟨v, hv, value, congrArg some ident⟩
    | noArm listed noArm =>
        rcases mem_checkedConstructors_repr_iff.1 listed with ⟨-, impossible⟩ | ⟨-, same⟩
        · cases impossible
        · cases same
          exact .inr ⟨forall_arms_ne_iff.1 noArm, rfl⟩
    | widen listed _ =>
        rcases mem_checkedConstructors_repr_iff.1 listed with ⟨-, impossible⟩ | ⟨-, impossible⟩
        · cases impossible
        · cases impossible
  · rintro (⟨v, hv, value, rfl⟩ | ⟨noItem, rfl⟩)
    · have some : e.items ≠ [] := by
        rcases mem_variants_value_iff.1 ⟨v, hv, rfl⟩ with ⟨i, hi, -⟩
        exact List.ne_nil_of_mem hi
      rcases find?_arms_iff.2 ⟨v, hv, value, rfl⟩ with ⟨a, found, ident⟩
      rw [ident]
      exact .arm (mem_checkedConstructors_repr_iff.2 (.inr ⟨some, rfl⟩)) found
    · by_cases empty : e.items = []
      · exact .never (mem_checkedConstructors_repr_iff.2 (.inl ⟨empty, rfl⟩))
      · exact .noArm (mem_checkedConstructors_repr_iff.2 (.inr ⟨empty, rfl⟩))
          (forall_arms_ne_iff.2 noItem)

/-- A call gives the variant of what the cast leaves. -/
theorem gives_iff (word : IntType.u64.Holds n) (expr : String) :
    (e.call expr).Gives e.enumType n result ↔ e.Selects (e.repr.cut n) result := by
  rw [Call.Gives, call, Operand.value_of word, returns_repr_iff]

theorem gives_iff_of_holds (word : IntType.u64.Holds n) (fits : e.repr.Holds n) (expr : String) :
    (e.call expr).Gives e.enumType n result ↔ e.Selects n result := by
  rw [gives_iff word, IntType.cut_of_holds fits]

end EnumDecl

/-! ## Wire integers that lose bits -/

/-- A wire integer outside the type of the enum, of which the cast leaves the value of an item. -/
def EnumDecl.Aliased (e : EnumDecl) (n : UInt64) : Prop :=
  ¬ e.repr.Holds n.toNat ∧ ∃ i ∈ e.items, (i.value.toNat : Int) = e.repr.cut n.toNat

instance (e : EnumDecl) (n : UInt64) : Decidable (e.Aliased n) :=
  inferInstanceAs (Decidable (¬ _ ∧ ∃ i ∈ e.items, _))

namespace EnumDecl

variable {e : EnumDecl} {result : Option String}

theorem holds_word (n : UInt64) : IntType.u64.Holds n.toNat := by
  rw [IntType.holds_unsigned_iff (by decide)]
  exact n.toNat_lt

theorem holds_of_mem_items {i : EnumItem} (listed : i ∈ e.items) :
    e.repr.Holds i.value.toNat := by
  refine e.narrowest_repr.holds i.value ?_
  rw [values_enumType, List.mem_eraseDups]
  exact List.mem_map_of_mem listed

/-- Where the cast loses bits no item has the wire integer, so what is left must not be the value of
an item either. -/
theorem gives_iff_of_not_aliased {n : UInt64} (plain : ¬ e.Aliased n) (expr : String) :
    (e.call expr).Gives e.enumType n.toNat result ↔ e.Selects n.toNat result := by
  by_cases fits : e.repr.Holds n.toNat
  · exact gives_iff_of_holds (holds_word n) fits expr
  · have cut : ∀ i ∈ e.items, (i.value.toNat : Int) ≠ e.repr.cut n.toNat :=
      fun i hi same => plain ⟨fits, i, hi, same⟩
    have whole : ∀ i ∈ e.items, (i.value.toNat : Int) ≠ n.toNat :=
      fun i hi same => fits (same ▸ holds_of_mem_items hi)
    rw [gives_iff (holds_word n), selects_of_no_item cut, selects_of_no_item whole]

end EnumDecl

/-! ## What is written for a variant -/

/-- The byte that a cast makes of a variant. -/
def EnumVariant.byte (v : EnumVariant) : Int :=
  IntType.u8.cut v.value.toNat

namespace EnumDecl

variable {e : EnumDecl}

theorem byteReader_mem (some : e.items ≠ []) :
    ∃ doc, docLine doc ++ publicFunction (EnumType.readerSignature .u8) "self as u8\n" ∈
      e.enumType.functions := by
  have variants := not_isEmpty_variants some
  have listed : IntType.u8 ∈ e.enumType.readers := by
    unfold EnumType.readers
    split <;> exact List.mem_cons_self
  refine ⟨e.enumType.readerDoc .u8, List.mem_append_right _ (List.mem_map.2 ⟨.u8, listed, ?_⟩)⟩
  rw [EnumType.readerText, if_neg variants]
  rfl

/-- Every unsigned type holds a byte. -/
theorem holds_byte {type : IntType} (unsigned : type ∈ IntType.unsignedTypes) (v : EnumVariant) :
    type.Holds v.byte := by
  have byte : v.byte = ((v.value.toNat % 256 : Nat) : Int) := rfl
  have widths : ∀ t ∈ IntType.unsignedTypes, 2 ^ 8 ≤ 2 ^ t.bits := by
    decide
  rw [byte, IntType.holds_unsigned_iff unsigned]
  exact Nat.lt_of_lt_of_le (Nat.mod_lt _ (by decide)) (widths _ unsigned)

theorem byte_of_small {v : EnumVariant} (small : v.value.toNat < 256) : v.byte = v.value.toNat := by
  refine IntType.cut_of_holds ?_
  rw [IntType.holds_unsigned_iff (by decide)]
  exact small

/-- What decodes a value gives the variant declared with the wire integer, and none if no item has
it, except for wire integers outside the type of the enum that the cast makes the value of an item. A
variant is written as the lowest eight bits of its value, from which the variant declared with that
byte is read: the variant itself, if its value is a byte. -/
theorem conversion_checked (e : EnumDecl) (x : WireInteger) :
    (∀ n : UInt64, ¬ e.Aliased n → ∀ result,
      (e.call x.text).Gives e.enumType n.toNat result ↔ e.Selects n.toNat result) ∧
    (∀ value : Value,
      (Leaf.enum e).encodeText value = encodedText "UInt8" (value.place.text ++ ".to_u8()")) ∧
    (e.items ≠ [] → ∃ doc,
      docLine doc ++ publicFunction (EnumType.readerSignature .u8) "self as u8\n" ∈
        e.enumType.functions) ∧
    ∀ v ∈ e.enumType.variants, ∀ result,
      ((e.call x.text).Gives e.enumType v.byte result ↔ e.Selects v.byte result) ∧
      (v.value.toNat < 256 →
        ((e.call x.text).Gives e.enumType v.byte result ↔ result = some v.ident)) := by
  refine ⟨fun n plain result => gives_iff_of_not_aliased plain _, fun _ => rfl, byteReader_mem, ?_⟩
  intro v listed result
  have read : (e.call x.text).Gives e.enumType v.byte result ↔ e.Selects v.byte result :=
    gives_iff_of_holds (holds_byte (by decide) v) (holds_byte e.narrowest_repr.unsigned v) _
  refine ⟨read, fun small => ?_⟩
  rw [read, byte_of_small small, selects_of_variant listed]

theorem conversion_checked_levels :
    ¬ levels.Aliased 300 ∧ ¬ levels.Aliased 70000 ∧
      (∀ result, (levels.call "*v").Gives levels.enumType 300 result ↔ result = some "High") ∧
      (∀ result, (levels.call "*v").Gives levels.enumType 70000 result ↔ result = none) ∧
      ⟨"Low", 1, ""⟩ ∈ levels.enumType.variants ∧
      ∀ result, (levels.call "*v").Gives levels.enumType 1 result ↔ result = some "Low" := by
  rcases conversion_checked levels .borrowed with ⟨gives, -, -, written⟩
  have high : ¬ levels.Aliased 300 := by
    decide
  have unused : ¬ levels.Aliased 70000 := by
    decide
  have low : (⟨"Low", 1, ""⟩ : EnumVariant) ∈ levels.enumType.variants := by
    decide
  refine ⟨high, unused, ?_, ?_, low, fun result => (written _ low result).2 (by decide)⟩
  · intro result
    have listed : (⟨"High", 300, ""⟩ : EnumVariant) ∈ levels.enumType.variants := by
      decide
    exact (gives 300 high result).trans (selects_of_variant listed)
  · intro result
    have noItem : ∀ i ∈ levels.items, (i.value.toNat : Int) ≠ (70000 : UInt64).toNat := by
      decide
    exact (gives 70000 unused result).trans (selects_of_no_item noItem)

/-- A state whose value is one more than a byte holds. -/
def heaterStates : EnumDecl :=
  ⟨"HeaterEnum", [⟨0, "Off", "Off", ""⟩, ⟨256, "Boost", "Boost", ""⟩], false⟩

/-- The wire integer 65536, which no item has, loses its only bit in the cast to 16 bits and is taken
for the variant of zero. The variant of 256 loses its only bit when it is written. -/
theorem not_conversion_checked_boost :
    heaterStates.items ≠ [] ∧
      (∀ i ∈ heaterStates.items, i.value ≠ 65536) ∧
      (heaterStates.call "*v").Gives heaterStates.enumType (65536 : UInt64).toNat (some "Off") ∧
      ⟨"Boost", 256, ""⟩ ∈ heaterStates.enumType.variants ∧
      (⟨"Boost", 256, ""⟩ : EnumVariant).byte = 0 ∧
      (heaterStates.call "*v").Gives heaterStates.enumType 0 (some "Off") ∧
      ¬ (heaterStates.call "*v").Gives heaterStates.enumType 0 (some "Boost") := by
  have off : (⟨"Off", 0, ""⟩ : EnumVariant) ∈ heaterStates.enumType.variants := by
    decide
  have zero : heaterStates.repr.Holds 0 := by
    decide
  have reads (result : Option String) :
      (heaterStates.call "*v").Gives heaterStates.enumType 0 result ↔ result = some "Off" :=
    (gives_iff_of_holds (holds_word 0) zero _).trans (selects_of_variant off)
  have cut : heaterStates.repr.cut (65536 : UInt64).toNat = 0 := by
    decide
  have aliased :
      (heaterStates.call "*v").Gives heaterStates.enumType (65536 : UInt64).toNat (some "Off") := by
    rw [gives_iff (holds_word 65536), cut]
    exact (selects_of_variant off).2 rfl
  exact ⟨by decide, by decide, aliased, by decide, by decide, (reads _).2 rfl,
    fun gives => absurd ((reads _).1 gives) (by decide)⟩

end EnumDecl
end ClusterCodec

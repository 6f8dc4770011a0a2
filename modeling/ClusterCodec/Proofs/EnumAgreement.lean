import ClusterCodec.Proofs.ConversionCalls
import ClusterCodec.Proofs.DeclaredIntegers

/-!
# EnumAgreement — the declaration of an enum, its checked constructors and their calls

An enum is emitted as a type with an implementation block, and the decoders call one constructor of
that block.  This file holds the three together:

- `Constructor`, `EnumType.checkedConstructors`: the constructors of the block as data;
  `EnumType.text_eq` says that the source text is made of them.
- `keys_keepFirst`: the first entry of each key, in order of first occurrence.
- `IntType.Narrowest`: no narrower unsigned type has room for the values.
- `EnumDecl.declaration_agrees`: variants, integer type, arms and calls of an enum agree.
-/

namespace ClusterCodec

open Text

/-! ## The constructors as data -/

/-- What a constructor does with its argument. -/
inductive ConstructorBody where
  /-- No integer has a variant. -/
  | never
  | choose (arms : List (UInt64 × String))
  /-- The argument is handed on to the constructor for a wider type. -/
  | widen (type : IntType)
  deriving Repr, DecidableEq

/-- A function that makes a variant from an integer. -/
structure Constructor where
  argument : IntType
  body : ConstructorBody
  deriving Repr, DecidableEq

def ConstructorBody.text : ConstructorBody → String
  | never => "None\n"
  | choose arms =>
    block "match value" (String.join (arms.map EnumType.armText) ++ "_ => None,\n") ++ "\n"
  | widen type =>
    "Self::" ++ EnumType.constructorName type ++ "(" ++ type.text ++ "::from(value))\n"

namespace Constructor

/-- An argument that is not looked at has a name that says so. -/
def binder (c : Constructor) : String :=
  match c.body with
  | .never => "_value"
  | .choose _ | .widen _ => "value"

def doc (c : Constructor) : String :=
  match c.body with
  | .widen type => "Convert from u8 value (promoted to " ++ type.text ++ ")"
  | .never | .choose _ => "Convert from " ++ c.argument.text ++ " value"

def text (c : Constructor) : String :=
  docLine c.doc ++
    publicFunction (EnumType.constructorSignature c.argument c.binder) c.body.text

end Constructor

namespace EnumType

def checkedConstructors (t : EnumType) : List Constructor :=
  if t.variants.isEmpty then [⟨.u8, .never⟩]
  else if t.repr = .u8 then [⟨.u8, .choose t.arms⟩]
  else [⟨.u8, .widen t.repr⟩, ⟨t.repr, .choose t.arms⟩]

/-- The result types of the functions that read the integer of a variant. -/
def readers (t : EnumType) : List IntType :=
  if t.variants.isEmpty ∨ t.repr = .u8 then [.u8] else [.u8, t.repr]

def readerDoc (t : EnumType) (type : IntType) : String :=
  if t.variants.isEmpty ∨ type = t.repr then "Convert to " ++ type.text ++ " value"
  else "Convert to u8 value (truncated if value > 255)"

/-- The function that reads the integer of a variant. -/
def readerText (t : EnumType) (type : IntType) : String :=
  docLine (t.readerDoc type) ++
    publicFunction (readerSignature type)
      (if t.variants.isEmpty then "match self \x7b\x7d\n" else "self as " ++ type.text ++ "\n")

/-- The type with its variants, up to the implementation block. -/
def declaration (t : EnumType) : String :=
  if t.variants.isEmpty then derives ++ "pub enum " ++ t.name ++ " \x7b\x7d\n\n"
  else
    derives ++ "#[repr(" ++ t.repr.text ++ ")]\n" ++
      block ("pub enum " ++ t.name) (String.join (t.variants.map variantText)) ++ "\n\n"

/-- The functions of the implementation block. -/
def functions (t : EnumType) : List String :=
  t.checkedConstructors.map Constructor.text ++ t.readers.map t.readerText

/-- What follows the implementation block. -/
def conversion (t : EnumType) : String :=
  if t.variants.isEmpty then "\n" ++ intoText t.name .u8 "match val \x7b\x7d\n"
  else "\n" ++ intoText t.name t.repr ("val as " ++ t.repr.text ++ "\n")

section Functions

variable {t : EnumType}

theorem checkedConstructors_of_empty (empty : t.variants.isEmpty = true) :
    t.checkedConstructors = [⟨.u8, .never⟩] := by
  rw [checkedConstructors, if_pos empty]

theorem checkedConstructors_of_byte (some : ¬ t.variants.isEmpty = true) (byte : t.repr = .u8) :
    t.checkedConstructors = [⟨.u8, .choose t.arms⟩] := by
  rw [checkedConstructors, if_neg some, if_pos byte]

theorem checkedConstructors_of_wide (some : ¬ t.variants.isEmpty = true) (wide : t.repr ≠ .u8) :
    t.checkedConstructors = [⟨.u8, .widen t.repr⟩, ⟨t.repr, .choose t.arms⟩] := by
  rw [checkedConstructors, if_neg some, if_neg wide]

theorem functions_of_empty (empty : t.variants.isEmpty = true) : t.functions = [
    docLine "Convert from u8 value" ++ publicFunction (constructorSignature .u8 "_value") "None\n",
    docLine "Convert to u8 value" ++
      publicFunction (readerSignature .u8) "match self \x7b\x7d\n"] := by
  have readers : t.readers = [.u8] := if_pos (.inl empty)
  have reader : t.readerText .u8 = docLine "Convert to u8 value" ++
      publicFunction (readerSignature .u8) "match self \x7b\x7d\n" := by
    rw [readerText, readerDoc, if_pos (.inl empty), if_pos empty]
    rfl
  rw [functions, checkedConstructors_of_empty empty, readers, List.map_singleton,
    List.map_singleton, reader]
  rfl

theorem functions_of_byte (some : ¬ t.variants.isEmpty = true) (byte : t.repr = .u8) :
    t.functions = t.byteFunctions := by
  have readers : t.readers = [.u8] := if_pos (.inr byte)
  have reader : t.readerText .u8 =
      docLine "Convert to u8 value" ++ publicFunction (readerSignature .u8) "self as u8\n" := by
    rw [readerText, readerDoc, if_pos (.inr byte.symm), if_neg some]
    rfl
  rw [functions, checkedConstructors_of_byte some byte, readers, List.map_singleton,
    List.map_singleton, reader]
  rfl

theorem functions_of_wide (some : ¬ t.variants.isEmpty = true) (wide : t.repr ≠ .u8) :
    t.functions = t.wideFunctions := by
  have readers : t.readers = [.u8, t.repr] := if_neg (not_or_intro some wide)
  have narrow : t.readerText .u8 = docLine "Convert to u8 value (truncated if value > 255)" ++
      publicFunction (readerSignature .u8) "self as u8\n" := by
    rw [readerText, readerDoc, if_neg (not_or_intro some wide.symm), if_neg some]
    rfl
  have whole : t.readerText t.repr = docLine ("Convert to " ++ t.repr.text ++ " value") ++
      publicFunction (readerSignature t.repr) ("self as " ++ t.repr.text ++ "\n") := by
    rw [readerText, readerDoc, if_pos (.inr rfl), if_neg some]
  rw [functions, checkedConstructors_of_wide some wide, readers]
  simp only [List.map_cons, List.map_nil, narrow, whole]
  rfl

end Functions

/-- The source text of an enum is its declaration, the constructors and readers, and a conversion. -/
theorem text_eq (t : EnumType) :
    t.text = t.declaration ++ implText t.name t.functions ++ t.conversion := by
  unfold text declaration conversion
  by_cases empty : t.variants.isEmpty = true
  · simp only [functions_of_empty empty, emptyText, if_pos empty, String.append_assoc]
  · by_cases byte : t.repr = .u8
    · simp only [functions_of_byte empty byte, if_neg empty, if_pos byte, String.append_assoc]
    · simp only [functions_of_wide empty byte, if_neg empty, if_neg byte, String.append_assoc]

end EnumType

/-! ## One entry for each value -/

section KeepFirst

variable {α β : Type} [DecidableEq β] {key : α → β}

theorem keys_keepFirstFrom (seen : List β) (l : List α) :
    (keepFirstFrom key seen l).map key =
      ((l.map key).filter fun b => decide (b ∉ seen)).eraseDups := by
  induction l generalizing seen with
  | nil => rfl
  | cons a l ih =>
      rw [keepFirstFrom, List.map_cons]
      split
      · next known =>
          rw [ih, List.filter_cons_of_neg (by simpa using known)]
      · next fresh =>
          -- From here on the key is among those seen, which filters it out of the rest.
          rw [List.map_cons, ih, List.filter_cons_of_pos (by simpa using fresh), List.eraseDups_cons,
            List.filter_filter]
          congr 2
          refine List.filter_congr fun b _ => ?_
          rw [← Bool.coe_iff_coe]
          simp [not_or]

/-- The keys of the first entries are the keys without repetitions, in order of first occurrence. -/
theorem keys_keepFirst (l : List α) : (keepFirst key l).map key = (l.map key).eraseDups := by
  rw [keepFirst, keys_keepFirstFrom, List.filter_eq_self.2 (by simp)]

end KeepFirst

/-! ## The narrowest type -/

/-- The unsigned types, from narrow to wide. -/
def IntType.unsignedTypes : List IntType :=
  [.u8, .u16, .u32, .u64]

/-- The unsigned type has room for the values, and no narrower unsigned type has. -/
structure IntType.Narrowest (t : IntType) (values : List UInt64) : Prop where
  unsigned : t ∈ unsignedTypes
  holds : ∀ v ∈ values, t.Holds v.toNat
  least : ∀ other ∈ unsignedTypes, (∀ v ∈ values, other.Holds v.toNat) → t.bits ≤ other.bits

theorem IntType.holds_unsigned_iff {t : IntType} (unsigned : t ∈ unsignedTypes) {n : Nat} :
    t.Holds n ↔ n < 2 ^ t.bits := by
  have plain : ∀ t ∈ unsignedTypes, t.isSigned = false := by
    decide
  rw [Holds, if_neg (by rw [plain t unsigned]; exact Bool.false_ne_true)]
  norm_cast
  simp

theorem foldl_max_lt_iff {limit start : Nat} {l : List Nat} :
    l.foldl max start < limit ↔ start < limit ∧ ∀ n ∈ l, n < limit := by
  induction l generalizing start with
  | nil => simp
  | cons m l ih =>
      rw [List.foldl_cons, ih, List.forall_mem_cons, Nat.max_lt, and_assoc]

theorem IntType.unsignedFor_mem (n : Nat) : unsignedFor n ∈ unsignedTypes := by
  unfold unsignedFor
  split_ifs <;> decide

theorem IntType.lt_unsignedFor {n : Nat} (word : n < 2 ^ 64) : n < 2 ^ (unsignedFor n).bits := by
  unfold unsignedFor
  split_ifs <;> assumption

theorem IntType.bits_unsignedFor_le {n : Nat} {other : IntType} (unsigned : other ∈ unsignedTypes)
    (fits : n < 2 ^ other.bits) : (unsignedFor n).bits ≤ other.bits := by
  have widths : other.bits = 8 ∨ other.bits = 16 ∨ other.bits = 32 ∨ other.bits = 64 := by
    revert unsigned
    cases other <;> decide
  -- A type that is not chosen has no room for the number, so `other` is no narrower one.
  unfold unsignedFor
  split_ifs with byte double quad
  · show 8 ≤ other.bits
    omega
  · show 16 ≤ other.bits
    rcases widths with same | same | same | same <;> rw [same] at fits ⊢ <;> omega
  · show 32 ≤ other.bits
    rcases widths with same | same | same | same <;> rw [same] at fits ⊢ <;> omega
  · show 64 ≤ other.bits
    rcases widths with same | same | same | same <;> rw [same] at fits ⊢ <;> omega

/-- The type for the greatest of some values is the type for all of them. -/
theorem IntType.narrowest_unsignedFor (values : List UInt64) :
    Narrowest (.unsignedFor ((values.map UInt64.toNat).foldl max 0)) values := by
  have below (bits : Nat) : (values.map UInt64.toNat).foldl max 0 < 2 ^ bits ↔
      ∀ v ∈ values, v.toNat < 2 ^ bits := by
    rw [foldl_max_lt_iff]
    simp [Nat.two_pow_pos bits]
  have room {other : IntType} (unsigned : other ∈ unsignedTypes) :
      (∀ v ∈ values, other.Holds v.toNat) ↔
        (values.map UInt64.toNat).foldl max 0 < 2 ^ other.bits := by
    rw [below]
    simp only [holds_unsigned_iff unsigned]
  have word : (values.map UInt64.toNat).foldl max 0 < 2 ^ 64 :=
    (below 64).2 fun v _ => v.toNat_lt
  refine ⟨unsignedFor_mem _, (room (unsignedFor_mem _)).2 (lt_unsignedFor word), ?_⟩
  intro other unsigned fits
  exact bits_unsignedFor_le unsigned ((room unsigned).1 fits)

theorem IntType.Narrowest.of_mem_iff {t : IntType} {values others : List UInt64}
    (narrowest : t.Narrowest values) (same : ∀ v, v ∈ others ↔ v ∈ values) :
    t.Narrowest others where
  unsigned := narrowest.unsigned
  holds v listed := narrowest.holds v ((same v).1 listed)
  least other unsigned fits :=
    narrowest.least other unsigned fun v listed => fits v ((same v).2 listed)

namespace EnumDecl

variable (e : EnumDecl)

theorem values_enumType : e.enumType.variants.map EnumVariant.value =
    (e.items.map EnumItem.value).eraseDups := by
  rw [← keys_keepFirst, enumType, List.map_map]
  rfl

/-- The type is found from all items, but the same type is the narrowest one for the variants. -/
theorem narrowest_repr : e.repr.Narrowest (e.enumType.variants.map EnumVariant.value) := by
  have all := IntType.narrowest_unsignedFor (e.items.map EnumItem.value)
  rw [List.map_map] at all
  refine IntType.Narrowest.of_mem_iff all fun v => ?_
  rw [values_enumType, List.mem_eraseDups]

/-! ## Declaration, constructors and calls -/

variable {e}

theorem not_isEmpty_variants (some : e.items ≠ []) : ¬ e.enumType.variants.isEmpty = true := by
  rcases List.exists_mem_of_ne_nil _ some with ⟨i, listed⟩
  have kept : i.value ∈ e.enumType.variants.map EnumVariant.value := by
    rw [values_enumType, List.mem_eraseDups]
    exact List.mem_map_of_mem listed
  rw [List.isEmpty_iff]
  intro empty
  rw [empty] at kept
  cases kept

/-- The constructors of an enum with items: the one for the integer type of the enum has an arm for
each variant, and the one for bytes hands on to it. -/
theorem checkedConstructors_eq (some : e.items ≠ []) :
    e.enumType.checkedConstructors =
      (if e.repr = .u8 then [] else [⟨.u8, .widen e.repr⟩]) ++
        [⟨e.repr, .choose (e.enumType.variants.map fun v => (v.value, v.ident))⟩] := by
  have variants := not_isEmpty_variants some
  by_cases byte : e.repr = .u8
  · rw [EnumType.checkedConstructors_of_byte variants byte, if_pos byte, byte]
    rfl
  · rw [EnumType.checkedConstructors_of_wide variants byte, if_neg byte]
    rfl

theorem checkedConstructors_of_no_items (empty : e.items = []) :
    e.enumType.checkedConstructors = [⟨e.repr, .never⟩] := by
  have variants : e.enumType.variants.isEmpty = true := by
    rw [enumType, distinctItems, empty]
    rfl
  have byte : e.repr = .u8 := by
    rw [repr, greatest, empty]
    rfl
  rw [EnumType.checkedConstructors_of_empty variants, byte]

theorem exists_constructor (e : EnumDecl) :
    ∃ c ∈ e.enumType.checkedConstructors, c.argument = e.repr := by
  by_cases empty : e.items = []
  · rw [checkedConstructors_of_no_items empty]
    exact ⟨_, List.mem_singleton_self _, rfl⟩
  · rw [checkedConstructors_eq empty]
    exact ⟨_, List.mem_append_right _ (List.mem_singleton_self _), rfl⟩

theorem find?_of_mem_variants {v : EnumVariant} (listed : v ∈ e.enumType.variants) :
    ∃ i, e.items.find? (fun j => decide (j.value = v.value)) = some i ∧ v.ident = i.variant := by
  rcases List.mem_map.1 listed with ⟨i, kept, rfl⟩
  exact ⟨i, mem_keepFirst_iff_find?.1 kept, rfl⟩

/-- An enum with items is declared with one variant for each value, in order of first occurrence and
named by the first item of the value; its integer type is the narrowest one for the values; and its
constructors choose among just these variants. Whatever decodes a value of an enum, with items or
without, calls the constructor for the integer type of the enum with an operand of that type, and the
implementation of the enum has that constructor. -/
theorem declaration_agrees (e : EnumDecl) :
    e.enumType.text = e.enumType.declaration ++
      EnumType.implText e.typeName (e.enumType.checkedConstructors.map Constructor.text ++
        e.enumType.readers.map e.enumType.readerText) ++ e.enumType.conversion ∧
    (e.items ≠ [] →
      e.enumType.declaration = EnumType.derives ++ "#[repr(" ++ e.repr.text ++ ")]\n" ++
        Text.block ("pub enum " ++ e.typeName)
          (String.join (e.enumType.variants.map EnumType.variantText)) ++ "\n\n" ∧
      e.enumType.variants.map EnumVariant.value = (e.items.map EnumItem.value).eraseDups ∧
      (∀ v ∈ e.enumType.variants, ∃ i,
        e.items.find? (fun j => decide (j.value = v.value)) = some i ∧ v.ident = i.variant) ∧
      e.repr.Narrowest (e.enumType.variants.map EnumVariant.value) ∧
      e.enumType.checkedConstructors =
        (if e.repr = .u8 then [] else [⟨.u8, .widen e.repr⟩]) ++
          [⟨e.repr, .choose (e.enumType.variants.map fun v => (v.value, v.ident))⟩]) ∧
    ∀ x text, e.DecodedBy x text →
      (e.call x.text).text.toList <:+: text.toList ∧ (e.call x.text).typeName = e.enumType.name ∧
        (e.call x.text).operand.type = (e.call x.text).argument ∧
        ∃ c ∈ e.enumType.checkedConstructors,
          c.argument = e.repr ∧ c.argument = (e.call x.text).argument := by
  refine ⟨EnumType.text_eq e.enumType, ?_, ?_⟩
  · intro some
    have variants := not_isEmpty_variants some
    refine ⟨?_, e.values_enumType, fun v => find?_of_mem_variants, e.narrowest_repr,
      checkedConstructors_eq some⟩
    rw [EnumType.declaration, if_neg variants]
    rfl
  · intro x text decoded
    refine ⟨?_, rfl, Operand.type_of _ _, ?_⟩
    · exact call_infix_of_decodedBy decoded
    · rcases exists_constructor e with ⟨c, listed, argument⟩
      exact ⟨c, listed, argument, argument⟩

/-- A level with a value above a byte, which is declared twice. -/
def levels : EnumDecl :=
  ⟨"LevelEnum", [⟨300, "High", "High", ""⟩, ⟨1, "Low", "Low", ""⟩, ⟨300, "Top", "Top", ""⟩], false⟩

theorem declaration_agrees_levels :
    levels.items ≠ [] ∧ levels.enumType.variants.map EnumVariant.value = [300, 1] ∧
      levels.repr = .u16 ∧ levels.repr.Narrowest [300, 1] ∧
      levels.enumType.checkedConstructors =
        [⟨.u8, .widen .u16⟩, ⟨.u16, .choose [(300, "High"), (1, "Low")]⟩] ∧
      levels.DecodedBy .borrowed ((Leaf.enum levels).singleBody .optional) ∧
      (levels.call "*v").text.toList <:+: ((Leaf.enum levels).singleBody .optional).toList ∧
      (levels.call "*v").text = "Level::from_u16(*v as u16)" := by
  have some : levels.items ≠ [] := by
    decide
  have decoded : levels.DecodedBy .borrowed ((Leaf.enum levels).singleBody .optional) :=
    .single .optional
  rcases (declaration_agrees levels).2.1 some with ⟨-, values, -, narrowest, constructors⟩
  have called := ((declaration_agrees levels).2.2 _ _ decoded).1
  have distinct : (levels.items.map EnumItem.value).eraseDups = [300, 1] := by
    decide
  have repr : levels.repr = .u16 := by
    decide
  have arms : (levels.enumType.variants.map fun v => (v.value, v.ident)) =
      [(300, "High"), (1, "Low")] := by
    decide
  rw [distinct] at values
  rw [repr, arms] at constructors
  rw [values] at narrowest
  exact ⟨some, values, repr, narrowest, constructors, decoded, called, by decide +kernel⟩

end EnumDecl
end ClusterCodec

import ClusterCodec.Emit.EnumType
import ClusterCodec.Proofs.DeclaredIntegers
import ClusterCodec.Proofs.ModuleTokens
import Mathlib.Data.List.Nodup

/-!
# DistinctIdentifiers — whether the identifiers of one declaration are distinct

- `Resolve.settled`: an entry behind those that are settled already. `forall_split_renameRepeats` says
  that a renamed list is made of these.
- `EnumDecl.VariantRetaken`, `BitmapDecl.ConstantRetaken`: an entry gets a new identifier that was
  taken.
- `Numbered`: a text is another one with digits behind it.
- `distinct_iff_not_retaken`: nothing else makes identifiers repeat, and it takes a numbered one.
- `not_distinct_steps`: identifiers that repeat.
-/

namespace ClusterCodec

open Text

/-! ## Lists, entry by entry -/

/-- The splits of a list with one more entry are those of the list and the one at its end. -/
theorem forall_split_concat {α : Type} {P : List α → α → Prop} {l : List α} {a : α} :
    (∀ before b after, l ++ [a] = before ++ b :: after → P before b) ↔
      (∀ before b after, l = before ++ b :: after → P before b) ∧ P l a := by
  constructor
  · intro all
    refine ⟨?_, all l a [] rfl⟩
    rintro before b after rfl
    refine all before b (after ++ [a]) ?_
    rw [List.append_assoc, List.cons_append]
  · rintro ⟨earlier, last⟩ before b after split
    rcases List.eq_nil_or_concat after with rfl | ⟨rest, c, rfl⟩
    · rcases List.append_inj' split rfl with ⟨rfl, same⟩
      rw [← List.singleton_inj.1 same]
      exact last
    · rw [List.concat_eq_append, ← List.cons_append, ← List.append_assoc] at split
      exact earlier before b rest (List.append_inj' split rfl).1

namespace Resolve

section Settled

variable {α : Type} (ident : α → String) (rename : α → α)

/-- The entry behind those that are settled already. -/
def settled (before : List α) (a : α) : α :=
  if ident a ∈ before.map ident then rename a else a

variable {ident rename}

theorem renameRepeats_append (seen : List String) (front back : List α) :
    renameRepeats ident rename seen (front ++ back) =
      renameRepeats ident rename seen front ++
        renameRepeats ident rename
          (((renameRepeats ident rename seen front).map ident).reverse ++ seen) back := by
  induction front generalizing seen with
  | nil =>
      rfl
  | cons a front ih =>
      simp only [List.cons_append, renameRepeats, ih, List.map_cons, List.reverse_cons,
        List.append_assoc, List.nil_append]

theorem renameRepeats_concat (l : List α) (a : α) :
    renameRepeats ident rename [] (l ++ [a]) =
      renameRepeats ident rename [] l ++
        [settled ident rename (renameRepeats ident rename [] l) a] := by
  rw [renameRepeats_append, renameRepeats, renameRepeats]
  simp only [List.append_nil, List.mem_reverse, settled]

theorem map_renameRepeats {β : Type} {key : α → β} (keeps : ∀ a, key (rename a) = key a)
    (seen : List String) (l : List α) : (renameRepeats ident rename seen l).map key = l.map key := by
  induction l generalizing seen with
  | nil =>
      rfl
  | cons a l ih =>
      rw [renameRepeats, List.map_cons, ih, List.map_cons]
      split
      · rw [keeps]
      · rfl

/-- The splits of a renamed list are those of the given list. -/
theorem forall_split_renameRepeats {P : List α → α → Prop} {l : List α} :
    (∀ before a after, renameRepeats ident rename [] l = before ++ a :: after → P before a) ↔
      ∀ before a after, l = before ++ a :: after →
        P (renameRepeats ident rename [] before)
          (settled ident rename (renameRepeats ident rename [] before) a) := by
  induction l using List.reverseRecOn with
  | nil =>
      simp [renameRepeats]
  | append_singleton l a ih =>
      rw [renameRepeats_concat, forall_split_concat, ih, ← forall_split_concat]

/-- What only fails of entries whose identifier was there before has to be looked at for renamed
entries alone. -/
theorem forall_split_renameRepeats_iff {P : List α → α → Prop} {l : List α}
    (fresh : ∀ before a, ident a ∉ before.map ident → P before a) :
    (∀ before a after, renameRepeats ident rename [] l = before ++ a :: after → P before a) ↔
      ∀ before a after, l = before ++ a :: after →
        ident a ∈ (renameRepeats ident rename [] before).map ident →
          P (renameRepeats ident rename [] before) (rename a) := by
  rw [forall_split_renameRepeats]
  refine forall₄_congr fun before a after split => ?_
  unfold settled
  split
  · next known =>
      exact ⟨fun holds _ => holds, fun holds => holds known⟩
  · next new =>
      exact iff_of_true (fresh _ a new) fun known => absurd known new

end Settled

end Resolve

section Apart

variable {α β : Type} {key : α → β} {ident : α → String}

/-- Entries with different keys differ iff none has the identifier of one before it. -/
theorem forall_ident_ne_iff {l : List α} :
    (∀ a ∈ l, ∀ b ∈ l, key a ≠ key b → ident a ≠ ident b) ↔
      ∀ before a after, l = before ++ a :: after →
        ∀ b ∈ before, key b ≠ key a → ident b ≠ ident a := by
  constructor
  · rintro all before a after rfl b listed
    exact all b (List.mem_append_left _ listed) a (List.mem_append_right _ (.head _))
  · intro all a ha b hb apart
    rcases List.append_of_mem ha with ⟨front, back, rfl⟩
    rcases List.mem_append.1 hb with earlier | later
    · exact (all front a back rfl b earlier apart.symm).symm
    · rcases List.mem_cons.1 later with rfl | later
      · exact absurd rfl apart
      · rcases List.append_of_mem later with ⟨middle, rest, rfl⟩
        refine all (front ++ a :: middle) b rest ?_ a ?_ apart
        · rw [List.append_assoc, List.cons_append]
        · exact List.mem_append_right _ (.head _)

variable [DecidableEq β]

theorem keepFirstFrom_concat (seen : List β) (l : List α) (a : α) :
    keepFirstFrom key seen (l ++ [a]) =
      keepFirstFrom key seen l ++ if key a ∈ seen ∨ key a ∈ l.map key then [] else [a] := by
  induction l generalizing seen with
  | nil =>
      simp [keepFirstFrom]
  | cons b l ih =>
      rw [List.cons_append, keepFirstFrom, keepFirstFrom, ih, ih, List.map_cons]
      -- Whether `b` is kept or not, its key is seen when `a` comes.
      by_cases known : key b ∈ seen
      · have same : key a ∈ seen ∨ key a ∈ l.map key ↔
            key a ∈ seen ∨ key a ∈ key b :: l.map key := by
          rw [List.mem_cons, ← or_assoc]
          refine or_congr_left (Iff.symm (or_iff_left_of_imp ?_))
          intro same
          exact same ▸ known
        simp only [if_pos known, same]
      · have same : key a ∈ key b :: seen ∨ key a ∈ l.map key ↔
            key a ∈ seen ∨ key a ∈ key b :: l.map key := by
          rw [List.mem_cons, List.mem_cons, or_assoc, or_left_comm]
        simp only [if_neg known, same, List.cons_append]

/-- The entries that are left have distinct identifiers iff none has that of one before it. -/
theorem nodup_keepFirst_iff {l : List α} :
    ((keepFirst key l).map ident).Nodup ↔
      ∀ before a after, l = before ++ a :: after → key a ∉ before.map key →
        ident a ∉ (keepFirst key before).map ident := by
  induction l using List.reverseRecOn with
  | nil =>
      simp [keepFirst, keepFirstFrom]
  | append_singleton l a ih =>
      rw [forall_split_concat, ← ih, keepFirst, keepFirstFrom_concat]
      by_cases known : key a ∈ l.map key
      · rw [if_pos (.inr known), List.append_nil]
        exact (and_iff_left fun fresh => absurd known fresh).symm
      · have new : ¬ (key a ∈ [] ∨ key a ∈ l.map key) := by
          simp [known]
        rw [if_neg new, List.map_append, List.map_singleton, List.nodup_append_comm,
          List.singleton_append, List.nodup_cons, and_comm]
        exact and_congr_right fun _ => ⟨fun fresh _ => fresh, fun fresh => fresh known⟩

end Apart

/-! ## Enums -/

namespace EnumDecl

/-- The items with repeated variants renamed. -/
def renamed (items : List EnumItem) : List EnumItem :=
  Resolve.renameRepeats EnumItem.variant EnumItem.withValue [] items

/-- The first item of a value repeats a variant and gets a new one, which is that of another item
before it. -/
def VariantRetaken (e : EnumDecl) : Prop :=
  ∃ before i after, e.items = before ++ i :: after ∧ i.value ∉ before.map EnumItem.value ∧
    i.variant ∈ (renamed before).map EnumItem.variant ∧
    i.withValue.variant ∈ (keepFirst EnumItem.value (renamed before)).map EnumItem.variant

theorem nodup_variants_iff {e : EnumDecl} :
    (e.withDistinctVariants.distinctItems.map EnumItem.variant).Nodup ↔ ¬ e.VariantRetaken := by
  have items : e.withDistinctVariants.distinctItems = keepFirst EnumItem.value (renamed e.items) :=
    rfl
  have values (l : List EnumItem) : (renamed l).map EnumItem.value = l.map EnumItem.value :=
    Resolve.map_renameRepeats (fun i => (rfl : i.withValue.value = i.value)) [] l
  have kept (l : List EnumItem) : (keepFirst EnumItem.value l).map EnumItem.variant ⊆
      l.map EnumItem.variant := ((keepFirst_sublist _ l).map _).subset
  rw [items, nodup_keepFirst_iff, renamed]
  refine (Resolve.forall_split_renameRepeats_iff fun before i new _ taken => ?_).trans ?_
  · exact new (kept before taken)
  · constructor
    · rintro fresh ⟨before, i, after, split, first, repeated, taken⟩
      rw [← values before] at first
      exact fresh before i after split repeated first taken
    · intro fresh before i after split repeated first taken
      rw [← renamed, values] at first
      exact fresh ⟨before, i, after, split, first, repeated, taken⟩

end EnumDecl

/-! ## Bitmaps -/

namespace BitmapDecl

/-- The flags with repeated constants renamed. -/
def renamed (flags : List BitFlag) : List BitFlag :=
  Resolve.renameRepeats BitFlag.constant BitFlag.withPosition [] flags

/-- A flag repeats a constant and gets a new one, which is that of a flag before it with another
position. -/
def ConstantRetaken (b : BitmapDecl) : Prop :=
  ∃ before f after, b.flags = before ++ f :: after ∧
    f.constant ∈ (renamed before).map BitFlag.constant ∧
    ∃ g ∈ renamed before, g.position ≠ f.position ∧ g.constant = f.withPosition.constant

theorem forall_constant_ne_iff {b : BitmapDecl} :
    (∀ f ∈ b.withDistinctConstants.flags, ∀ g ∈ b.withDistinctConstants.flags,
      f.position ≠ g.position → f.constant ≠ g.constant) ↔ ¬ b.ConstantRetaken := by
  have flags : b.withDistinctConstants.flags = renamed b.flags := rfl
  rw [flags, forall_ident_ne_iff, renamed, Resolve.forall_split_renameRepeats_iff
    fun before f new g listed _ same => new (List.mem_map.2 ⟨g, listed, same⟩)]
  constructor
  · rintro fresh ⟨before, f, after, split, repeated, g, listed, apart, taken⟩
    exact fresh before f after split repeated g listed apart taken
  · intro fresh before f after split repeated g listed apart taken
    exact fresh ⟨before, f, after, split, repeated, g, listed, apart, taken⟩

end BitmapDecl

/-! ## Numbers behind identifiers -/

theorem decimal_injective : Function.Injective Numeral.decimal := by
  intro m n same
  have value (k : Nat) : Numeral.valueOf 10 (Numeral.digits 10 false k) = k :=
    Numeral.valueOf_digits (by decide) (by decide) false k
  rw [← value m, String.ofList_injective same, value n]

/-- A text is another one with digits behind it. -/
def Numbered (text base : String) : Prop :=
  ∃ ds, ds ≠ [] ∧ (∀ c ∈ ds, c.isDigit = true) ∧ text.toList = base.toList ++ ds

/-- A text that ends in no digit is not numbered. -/
theorem not_numbered {text base : String} (last : text.toList.getLast?.all (!·.isDigit) = true) :
    ¬ Numbered text base := by
  rintro ⟨ds, nonempty, digits, longer⟩
  rcases List.eq_nil_or_concat ds with rfl | ⟨front, c, rfl⟩
  · exact nonempty rfl
  · rw [longer, List.concat_eq_append, ← List.append_assoc, List.getLast?_concat] at last
    have digit := digits c (by simp)
    simp [digit] at last

theorem numbered_append_decimal (base : String) (n : Nat) :
    Numbered (base ++ Numeral.decimal n) base := by
  refine ⟨_, ?_, fun c => Lexical.isDigit_of_mem_decimal (n := n), String.toList_append⟩
  rw [Numeral.decimal, String.toList_ofList]
  exact Lexical.digits_ne_nil 10 false n

/-- If two texts agree with different numbers behind them, one of them is the other with digits behind
it. -/
theorem numbered_of_append_decimal_eq {s t : String} {m n : Nat} (apart : m ≠ n)
    (same : s ++ Numeral.decimal m = t ++ Numeral.decimal n) : Numbered s t ∨ Numbered t s := by
  have chars := congrArg String.toList same
  rw [String.toList_append, String.toList_append] at chars
  have digits {k j : Nat} {ds : List Char} (apart : k ≠ j)
      (number : (Numeral.decimal k).toList = ds ++ (Numeral.decimal j).toList) :
      ds ≠ [] ∧ ∀ c ∈ ds, c.isDigit = true := by
    refine ⟨?_, ?_⟩
    · rintro rfl
      exact apart (decimal_injective (String.toList_injective number))
    · intro c inside
      apply Lexical.isDigit_of_mem_decimal (n := k)
      rw [number]
      exact List.mem_append_left _ inside
  rcases List.append_eq_append_iff.1 chars with ⟨ds, longer, number⟩ | ⟨ds, longer, number⟩
  · rcases digits apart number with ⟨nonempty, all⟩
    exact .inr ⟨ds, nonempty, all, longer⟩
  · rcases digits apart.symm number with ⟨nonempty, all⟩
    exact .inl ⟨ds, nonempty, all, longer⟩

/-- No variant of the enum is another one with digits behind it. -/
def EnumDecl.VariantsUnnumbered (e : EnumDecl) : Prop :=
  ∀ i ∈ e.items, ∀ j ∈ e.items, ¬ Numbered i.variant j.variant

/-- No constant of the bitmap is another one with an underscore and digits behind it. -/
def BitmapDecl.ConstantsUnnumbered (b : BitmapDecl) : Prop :=
  ∀ f ∈ b.flags, ∀ g ∈ b.flags, ¬ Numbered f.constant (g.constant ++ "_")

theorem EnumDecl.not_variantRetaken {e : EnumDecl} (unnumbered : e.VariantsUnnumbered) :
    ¬ e.VariantRetaken := by
  rintro ⟨before, i, after, split, first, -, taken⟩
  have given {j : EnumItem} (listed : j ∈ before) : j ∈ e.items := by
    rw [split]
    exact List.mem_append_left _ listed
  have own : i ∈ e.items := by
    rw [split]
    exact List.mem_append_right _ (.head _)
  rcases List.mem_map.1 taken with ⟨k, kept, same⟩
  rcases Resolve.mem_renameRepeats ((keepFirst_sublist _ _).subset kept) with
    ⟨j, listed, rfl | rfl⟩
  · -- The identifier was given.
    apply unnumbered k (given listed) i own
    rw [same]
    exact numbered_append_decimal _ _
  · -- It is a new one itself, with another value.
    have apart : j.value.toNat ≠ i.value.toNat := fun same =>
      first (List.mem_map.2 ⟨j, listed, UInt64.toNat_inj.1 same⟩)
    rcases numbered_of_append_decimal_eq apart same with numbered | numbered
    · exact unnumbered j (given listed) i own numbered
    · exact unnumbered i own j (given listed) numbered

/-- Digits hold no underscore, so the last one parts a constant from its position. -/
theorem decimal_eq_of_append_underscore {s t : String} {m n : Nat}
    (same : s ++ "_" ++ Numeral.decimal m = t ++ "_" ++ Numeral.decimal n) : m = n := by
  by_contra apart
  have noUnderscore {u v : String} : ¬ Numbered (u ++ "_") (v ++ "_") := by
    apply not_numbered
    rw [String.toList_append]
    exact List.getLast?_concat ▸ rfl
  rcases numbered_of_append_decimal_eq apart same with numbered | numbered
  · exact noUnderscore numbered
  · exact noUnderscore numbered

theorem BitmapDecl.not_constantRetaken {b : BitmapDecl} (unnumbered : b.ConstantsUnnumbered) :
    ¬ b.ConstantRetaken := by
  rintro ⟨before, f, after, split, -, k, kept, apart, same⟩
  rcases Resolve.mem_renameRepeats kept with ⟨g, listed, rfl | rfl⟩
  · have given : k ∈ b.flags := by
      rw [split]
      exact List.mem_append_left _ listed
    have own : f ∈ b.flags := by
      rw [split]
      exact List.mem_append_right _ (.head _)
    apply unnumbered k given f own
    rw [same]
    exact numbered_append_decimal _ _
  · exact apart (UInt32.toNat_inj.1 (decimal_eq_of_append_underscore same))

/-! ## Declarations -/

/-- The variants that an enum emits are distinct iff no emitted item gets a new variant that an
emitted item before it has, and the constants of different positions are distinct iff no flag gets a
new constant that a flag with another position before it has.  Both take an identifier that was
given with a number at its end. -/
theorem distinct_iff_not_retaken (e : EnumDecl) (b : BitmapDecl) :
    (((e.withDistinctVariants.distinctItems.map EnumItem.variant).Nodup ↔ ¬ e.VariantRetaken) ∧
      (e.VariantsUnnumbered → ¬ e.VariantRetaken)) ∧
      ((∀ f ∈ b.withDistinctConstants.flags, ∀ g ∈ b.withDistinctConstants.flags,
          f.position ≠ g.position → f.constant ≠ g.constant) ↔ ¬ b.ConstantRetaken) ∧
        (b.ConstantsUnnumbered → ¬ b.ConstantRetaken) := by
  refine ⟨⟨?_, ?_⟩, ?_, ?_⟩
  · exact EnumDecl.nodup_variants_iff
  · exact EnumDecl.not_variantRetaken
  · exact BitmapDecl.forall_constant_ne_iff
  · exact BitmapDecl.not_constantRetaken

/-- An enum and a bitmap with one identifier for everything. -/
def plainSteps : EnumDecl × BitmapDecl :=
  ((EnumDecl.addItem { name := "StepEnum" } 0 "Foo" "").addItem 1 "Foo" "",
    (BitmapDecl.addFlag { name := "FlagsBitmap" } 0 "Flag" "").addFlag 1 "Flag" "")

theorem distinct_iff_not_retaken_plainSteps :
    (plainSteps.1.withDistinctVariants.distinctItems.map EnumItem.variant).Nodup ∧
      ∀ f ∈ plainSteps.2.withDistinctConstants.flags,
        ∀ g ∈ plainSteps.2.withDistinctConstants.flags,
          f.position ≠ g.position → f.constant ≠ g.constant := by
  have variants : plainSteps.1.VariantsUnnumbered := by
    have ends : ∀ i ∈ plainSteps.1.items,
        i.variant.toList.getLast?.all (!·.isDigit) = true := by
      decide +kernel
    exact fun i listed _ _ => not_numbered (ends i listed)
  have constants : plainSteps.2.ConstantsUnnumbered := by
    have ends : ∀ f ∈ plainSteps.2.flags,
        f.constant.toList.getLast?.all (!·.isDigit) = true := by
      decide +kernel
    exact fun f listed _ _ => not_numbered (ends f listed)
  rcases distinct_iff_not_retaken plainSteps.1 plainSteps.2 with
    ⟨⟨enum, unnumbered⟩, bitmap, unnumberedToo⟩
  exact ⟨enum.2 (unnumbered variants), bitmap.2 (unnumberedToo constants)⟩

/-- An enum and a bitmap whose first identifier is the new one of the last. -/
def steps : EnumDecl × BitmapDecl :=
  (((EnumDecl.addItem { name := "StepEnum" } 0 "Foo1" "").addItem 2 "Foo" "").addItem 1 "Foo" "",
    ((BitmapDecl.addFlag { name := "FlagsBitmap" } 0 "Flag_1" "").addFlag 2 "Flag" "").addFlag 1
      "Flag" "")

/-- Two emitted items become `Foo1`, and flags with the positions 0 and 1 become `FLAG_1`. -/
theorem not_distinct_steps :
    steps.1.withDistinctVariants.distinctItems.map EnumItem.variant = ["Foo1", "Foo", "Foo1"] ∧
      ¬ (steps.1.withDistinctVariants.distinctItems.map EnumItem.variant).Nodup ∧
      steps.2.withDistinctConstants.flags.map (fun f => (f.position, f.constant)) =
        [(0, "FLAG_1"), (2, "FLAG"), (1, "FLAG_1")] ∧
      ¬ ∀ f ∈ steps.2.withDistinctConstants.flags, ∀ g ∈ steps.2.withDistinctConstants.flags,
        f.position ≠ g.position → f.constant ≠ g.constant := by
  have variants : steps.1.withDistinctVariants.distinctItems.map EnumItem.variant =
      ["Foo1", "Foo", "Foo1"] := by
    decide +kernel
  refine ⟨variants, ?_, by decide +kernel, by decide +kernel⟩
  rw [variants]
  decide

end ClusterCodec

import ClusterCodec.Schema.Declaration
import ClusterCodec.Text.Numeral

/-!
# Repetition — identifiers that repeat inside one declaration

- `renameRepeats`: renames every entry whose identifier was there before.
- `EnumDecl.withDistinctVariants`: a repeated variant gets its value appended.
- `BitmapDecl.withDistinctConstants`: a repeated constant gets its position appended.
-/

namespace ClusterCodec
namespace Resolve

variable {α : Type}

/-- Renames every entry whose identifier is among those `seen`. A new identifier counts as seen
too; whether it was there before is not looked at. -/
def renameRepeats (ident : α → String) (rename : α → α) (seen : List String) : List α → List α
  | [] => []
  | a :: rest =>
    -- Only the given identifier is compared, so a new one may repeat a later one.
    let a' := if ident a ∈ seen then rename a else a
    a' :: renameRepeats ident rename (ident a' :: seen) rest

/-- Nothing is renamed iff nothing repeats. -/
theorem renameRepeats_eq_self_iff {ident : α → String} {rename : α → α}
    (changes : ∀ a, rename a ≠ a) (seen : List String) (l : List α) :
    renameRepeats ident rename seen l = l ↔ (∀ a ∈ l, ident a ∉ seen) ∧ (l.map ident).Nodup := by
  induction l generalizing seen with
  | nil => simp [renameRepeats]
  | cons a l ih =>
    rw [renameRepeats]
    by_cases repeated : ident a ∈ seen
    · simp [repeated, changes]
    · simp only [repeated, if_false, List.cons.injEq, true_and, ih, List.mem_cons, not_or,
        List.map_cons, List.nodup_cons, List.mem_map, forall_eq_or_imp, not_false_iff]
      constructor
      · rintro ⟨fresh, distinct⟩
        exact ⟨fun b hb => (fresh b hb).2, fun ⟨b, hb, same⟩ => (fresh b hb).1 same, distinct⟩
      · rintro ⟨fresh, alone, distinct⟩
        exact ⟨fun b hb => ⟨fun same => alone ⟨b, hb, same⟩, fresh b hb⟩, distinct⟩

end Resolve

open Resolve Text

def EnumItem.withValue (i : EnumItem) : EnumItem :=
  { i with variant := i.variant ++ Numeral.decimal i.value.toNat }

def BitFlag.withPosition (f : BitFlag) : BitFlag :=
  { f with constant := f.constant ++ "_" ++ Numeral.decimal f.position.toNat }

def EnumDecl.withDistinctVariants (e : EnumDecl) : EnumDecl :=
  { e with items := renameRepeats EnumItem.variant EnumItem.withValue [] e.items }

def BitmapDecl.withDistinctConstants (b : BitmapDecl) : BitmapDecl :=
  { b with flags := renameRepeats BitFlag.constant BitFlag.withPosition [] b.flags }

end ClusterCodec

import ClusterCodec.Proofs.PathNames
import ClusterCodec.Proofs.SnakeCase

/-!
# ValidIdentifiers — every name becomes a usable identifier

- `IsIdentifier`: a word that is neither a lone underscore nor reserved.
- `isIdentifier_escapeReserved`, `isIdentifier_underscore`: the two ways in which a word that cannot
  stand on its own is made an identifier.
- `isIdentifier_madeFrom`: so words become an identifier, whatever they are.
- `isIdentifier_ofConstant`: a constant needs no escape, for every reserved word has a small letter.
- `identifiers_valid`: the identifiers of fields, types, variants, constants and modules.
-/

namespace ClusterCodec
namespace Name

open Text Lexical

/-- A nonempty text of ASCII letters, digits and underscores that does not begin with a digit and is
neither a lone underscore nor reserved. -/
def IsIdentifier (text : String) : Prop :=
  IsWord text ∧ text ≠ "_" ∧ text ∉ reservedWords

instance (text : String) : Decidable (IsIdentifier text) :=
  inferInstanceAs (Decidable (_ ∧ _))

/-! ## Words set apart -/

theorem ne_underscore_of_length {text : String} (long : 1 < text.length) : text ≠ "_" := by
  rintro rfl
  exact absurd long (by decide)

theorem isIdentifier_escapeReserved {text : String} (word : IsWord text) (solid : text ≠ "_") :
    IsIdentifier (escapeReserved text) := by
  refine ⟨word.escapeReserved, ?_, escapeReserved_notMem text⟩
  unfold escapeReserved
  split
  · -- Before the underscore there is at least the first letter of the word.
    apply ne_underscore_of_length
    rcases word with ⟨c, cs, chars, -⟩
    rw [String.length_append, ← String.length_toList, chars]
    exact Nat.lt_add_of_pos_left (Nat.succ_pos _)
  · exact solid

theorem head?_escapeReserved {text : String} (nonempty : text.toList ≠ []) :
    (escapeReserved text).toList.head? = text.toList.head? := by
  unfold escapeReserved
  split
  · rw [String.toList_append, List.head?_append_of_ne_nil _ nonempty]
  · rfl

theorem isIdentifier_underscore {ident : List Char} (parts : ∀ c ∈ ident, isWordPart c = true)
    (nonempty : ident ≠ []) : IsIdentifier (String.ofList ('_' :: ident)) := by
  have begins : ∀ word ∈ reservedWords, word.toList.head? ≠ some '_' := by
    decide
  refine ⟨.underscore parts, ?_, ?_⟩
  · intro lone
    have chars := congrArg String.toList lone
    rw [String.toList_ofList] at chars
    exact nonempty (List.cons.inj chars).2
  · intro reserved
    apply begins _ reserved
    rw [String.toList_ofList]
    rfl

/-- A text of capital letters, digits and underscores is not reserved. -/
theorem notMem_reservedWords_of_no_small {text : String}
    (capital : ∀ c ∈ text.toList, c.isLower = false) : text ∉ reservedWords := by
  have small : ∀ word ∈ reservedWords, word.toList.any Char.isLower = true := by
    decide
  intro reserved
  rcases List.any_eq_true.1 (small text reserved) with ⟨c, listed, lower⟩
  rw [capital c listed] at lower
  cases lower

namespace Identifier

/-! ## Words that become an identifier -/

theorem isIdentifier_madeFrom {otherwise : String} {ident : List Char}
    (known : IsIdentifier otherwise) (parts : ∀ c ∈ ident, isWordPart c = true)
    (solid : ident ≠ ['_']) : IsIdentifier (madeFrom otherwise ident) := by
  unfold madeFrom
  split
  · exact known
  · next some =>
      have nonempty : ident ≠ [] := fun none => some (List.isEmpty_iff.2 none)
      split
      · exact isIdentifier_underscore parts nonempty
      · next noDigit =>
          have word : IsWord (String.ofList ident) :=
            .of_parts nonempty parts (Bool.eq_false_iff.2 noDigit)
          apply isIdentifier_escapeReserved word
          intro lone
          exact solid (String.ofList_inj.1 lone)

/-- Underscores are trimmed, so that none is left alone. -/
theorem separated_ne_underscore (f : Char → Char) (cs : List Char) : separated f cs ≠ ['_'] := by
  intro lone
  have first : (separated f cs).head? = some '_' := by
    rw [lone]
    rfl
  cases not_drop_of_head?_trimBy first

theorem isIdentifier_ofField (name : String) : IsIdentifier (ofField name) := by
  rw [ofField_eq_madeFrom]
  apply isIdentifier_madeFrom
  · decide
  · exact fun c => isWordPart_of_mem_separated isWordPart_smallOrUnderscore
  · exact separated_ne_underscore _ _

theorem isIdentifier_ofWords (cs : List Char) : IsIdentifier (ofWords cs) := by
  rw [ofWords_eq_madeFrom]
  apply isIdentifier_madeFrom
  · decide
  · exact isWordPart_joinedWords
  · intro lone
    have inWords : '_' ∈ joinedWords cs := by
      rw [lone]
      exact List.mem_cons_self
    cases isAlphanum_joinedWords _ inWords

/-! ## Constants -/

theorem isLower_capitalOrUnderscore (c : Char) : (capitalOrUnderscore c).isLower = false := by
  unfold capitalOrUnderscore
  split
  · exact isLower_toUpper c
  · rfl

theorem isLower_of_mem_separated {cs : List Char} {c : Char}
    (h : c ∈ separated capitalOrUnderscore cs) : c.isLower = false := by
  rcases List.mem_map.1 (mem_of_mem_squeeze (mem_of_mem_trimBy h)) with ⟨d, -, rfl⟩
  exact isLower_capitalOrUnderscore d

theorem isIdentifier_ofConstant (name : String) : IsIdentifier (ofConstant name) := by
  refine ⟨isWord_ofConstant name, ?_, ?_⟩
  · rw [ofConstant]
    split
    · decide
    · split
      · apply ne_underscore_of_length
        rw [String.length_append]
        exact Nat.lt_add_right _ (by decide)
      · exact fun lone => separated_ne_underscore _ _ (String.ofList_inj.1 lone)
  · -- Every reserved word has a small letter, and no constant has one.
    apply notMem_reservedWords_of_no_small
    intro c listed
    rw [ofConstant] at listed
    split at listed
    · have word : ∀ c ∈ "UNKNOWN".toList, c.isLower = false := by
        decide
      exact word c listed
    · split at listed
      · have mark : ∀ c ∈ "BIT_".toList, c.isLower = false := by
          decide
        rw [String.toList_append] at listed
        rcases List.mem_append.1 listed with front | back
        · exact mark c front
        · rw [String.toList_ofList] at back
          exact isLower_of_mem_separated back
      · rw [String.toList_ofList] at listed
        exact isLower_of_mem_separated listed

/-! ## Modules -/

theorem ofModule_cases (stem : String) :
    ofModule stem = "cluster" ∨
      ((smallWords stem).head?.any Char.isLower = true ∧
        ofModule stem = escapeReserved (String.ofList (smallWords stem))) ∨
      ofModule stem = "cluster_" ++ String.ofList (smallWords stem) := by
  unfold ofModule
  simp only []
  split
  · exact .inl rfl
  · split
    · next small => exact .inr (.inl ⟨small, rfl⟩)
    · exact .inr (.inr rfl)

theorem isIdentifier_ofModule (stem : String) : IsIdentifier (ofModule stem) := by
  have parts : ∀ c ∈ smallWords stem, isWordPart c = true := fun c =>
    isWordPart_of_mem_separated isWordPart_smallOrUnderscore
  -- The words of the stem stand alone where they begin with a letter, and else behind a prefix.
  rcases ofModule_cases stem with same | ⟨small, same⟩ | same
  · rw [same]
    decide
  · rw [same]
    cases chars : smallWords stem with
    | nil =>
        rw [chars] at small
        cases small
    | cons c cs =>
        rw [chars] at small parts
        have start : isWordStart c = true := isWordStart_iff.2 (.inl (isAlpha_iff.2 (.inr small)))
        apply isIdentifier_escapeReserved
        · exact ⟨c, cs, String.toList_ofList, start, fun d listed => parts d (.tail _ listed)⟩
        · intro lone
          apply separated_ne_underscore smallOrUnderscore (snakeChars stem.toList)
          rw [← String.ofList_inj, ← smallWords, chars]
          exact lone
  · refine ⟨?_, ?_, ofModule_notMem_reservedWords stem⟩
    · rw [same]
      apply IsWord.append (by decide : IsWord "cluster_")
      rwa [String.toList_ofList]
    · apply ne_underscore_of_length
      rw [same, String.length_append]
      exact Nat.lt_add_right _ (by decide)

/-- A module begins with a small letter. -/
theorem head_ofModule (stem : String) : (ofModule stem).toList.head?.any Char.isLower = true := by
  rcases ofModule_cases stem with same | ⟨small, same⟩ | same
  · rw [same]
    decide
  · have nonempty : (String.ofList (smallWords stem)).toList ≠ [] := by
      rw [String.toList_ofList]
      intro none
      rw [none] at small
      cases small
    rw [same, head?_escapeReserved nonempty, String.toList_ofList]
    exact small
  · have front : "cluster_".toList.head? = some 'c' := by
      decide
    rw [same, String.toList_append, List.head?_append, front]
    rfl

/-- Every identifier that is made of a name is a word of ASCII letters, digits and underscores that
does not begin with a digit and is neither a lone underscore nor reserved; that of a module begins
with a small letter. -/
theorem identifiers_valid (name suffix : String) (keepSuffix : Bool) :
    IsIdentifier (ofField name) ∧ IsIdentifier (ofType name suffix keepSuffix) ∧
      IsIdentifier (ofVariant name) ∧ IsIdentifier (ofConstant name) ∧
      IsIdentifier (ofModule name) ∧ (ofModule name).toList.head?.any Char.isLower = true :=
  ⟨isIdentifier_ofField name, isIdentifier_ofWords _, isIdentifier_ofWords _,
    isIdentifier_ofConstant name, isIdentifier_ofModule name, head_ofModule name⟩

end Identifier
end Name
end ClusterCodec

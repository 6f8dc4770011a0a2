import ClusterCodec.Proofs.EmittedWords

/-!
# SnakeLetters — snake case keeps the letters and digits of a word

- `merged`: a text without its underscores. `merged_splitCapitalRuns`, `merged_splitCapitals`,
  `merged_squeeze`, `merged_trimUnderscores`: the steps that set and drop underscores change nothing
  else.
- `bare`: the same in small letters. `bare_unifyAbbreviations`: abbreviations change nothing else.
- `bare_smallWords`: so a word and its snake case differ in underscores and letter case only.
- `caseVariants`: the texts with given small letters.
-/

namespace ClusterCodec
namespace Name

open Text Lexical

/-! ## The characters of words -/

/-- The characters of words are few enough to look at each one. -/
theorem forall_isWordPart {P : Char → Prop}
    (each : ∀ n < 123, isWordPart (Char.ofNat n) = true → P (Char.ofNat n)) {c : Char}
    (part : isWordPart c = true) : P c := by
  have range : c.toNat < 123 := Nat.lt_succ_of_le (toNat_of_isWordPart part).2
  exact CodePoints.forall_of_toNat_lt (P := fun c => isWordPart c = true → P c) each range part

theorem lowered_of_isWordPart {c : Char} (part : isWordPart c = true) :
    LetterCase.lowered c = [c.toLower] :=
  forall_isWordPart (P := fun c => LetterCase.lowered c = [c.toLower]) (by decide) part

theorem smallOrUnderscore_toLower {c : Char} (part : isWordPart c = true) :
    Identifier.smallOrUnderscore c.toLower = c.toLower :=
  forall_isWordPart (P := fun c => Identifier.smallOrUnderscore c.toLower = c.toLower)
    (by decide) part

theorem eq_toLower_or_eq_toUpper {c : Char} (part : isWordPart c = true) :
    c = c.toLower ∨ c = c.toLower.toUpper :=
  forall_isWordPart (P := fun c => c = c.toLower ∨ c = c.toLower.toUpper) (by decide) part

/-! ## Texts apart from underscores -/

/-- A text without its underscores. -/
def merged (cs : List Char) : List Char :=
  cs.filter (· ≠ '_')

theorem merged_cons (c : Char) (cs : List Char) : merged (c :: cs) = merged [c] ++ merged cs :=
  List.filter_append [c] cs

theorem merged_underscore (cs : List Char) : merged ('_' :: cs) = merged cs :=
  List.filter_cons_of_neg (by decide)

theorem merged_reverse (cs : List Char) : merged cs.reverse = (merged cs).reverse :=
  List.filter_reverse

/-- Texts that differ in underscores have the same other characters. -/
theorem mem_of_merged_eq {cs ds : List Char} (same : merged ds = merged cs) {c : Char} (h : c ∈ ds) :
    c = '_' ∨ c ∈ cs := by
  by_cases underscore : c = '_'
  · exact .inl underscore
  · have kept : c ∈ merged ds := List.mem_filter.2 ⟨h, decide_eq_true underscore⟩
    rw [same] at kept
    exact .inr (List.mem_of_mem_filter kept)

theorem merged_splitCapitalRuns (cs : List Char) : merged (splitCapitalRuns cs) = merged cs := by
  fun_induction splitCapitalRuns cs with
  | case1 a b cs boundary ih =>
      rw [merged_cons, merged_underscore, ih, ← merged_cons]
  | case2 a b cs inside ih =>
      rw [merged_cons, ih, ← merged_cons]
  | case3 cs short =>
      rfl

theorem merged_splitCapitals (cs : List Char) : merged (splitCapitals cs) = merged cs := by
  fun_induction splitCapitals cs with
  | case1 a b cs boundary ih =>
      rw [merged_cons, merged_underscore, ih, ← merged_cons]
  | case2 a b cs inside ih =>
      rw [merged_cons, ih, ← merged_cons]
  | case3 cs short =>
      rfl

theorem merged_squeeze (cs : List Char) : merged (squeeze cs) = merged cs := by
  fun_induction squeeze cs with
  | case1 a b cs both ih =>
      have first : a = '_' := by
        simp at both
        exact both.1
      rw [ih, first, merged_underscore]
  | case2 a b cs other ih =>
      rw [merged_cons, ih, ← merged_cons]
  | case3 cs short =>
      rfl

theorem merged_dropWhile_underscores (cs : List Char) :
    merged (cs.dropWhile (· == '_')) = merged cs := by
  induction cs with
  | nil =>
      rfl
  | cons c cs ih =>
      rw [List.dropWhile_cons]
      split
      · next underscore =>
          rw [ih, beq_iff_eq.1 underscore, merged_underscore]
      · rfl

theorem merged_trimUnderscores (cs : List Char) : merged (trimUnderscores cs) = merged cs := by
  rw [trimUnderscores, trimBy, merged_reverse, merged_dropWhile_underscores, merged_reverse,
    merged_dropWhile_underscores, List.reverse_reverse]

/-! ## Bare texts -/

/-- The characters of a text in small letters, without underscores. -/
def bare (cs : List Char) : List Char :=
  (cs.filter (· ≠ '_')).map Char.toLower

theorem bare_of_merged_eq {cs ds : List Char} (same : merged ds = merged cs) : bare ds = bare cs :=
  congrArg (List.map Char.toLower) same

@[simp]
theorem bare_append (front back : List Char) : bare (front ++ back) = bare front ++ bare back := by
  rw [bare, List.filter_append, List.map_append]
  rfl

theorem bare_cons (c : Char) (cs : List Char) : bare (c :: cs) = bare [c] ++ bare cs :=
  bare_append [c] cs

@[simp]
theorem bare_underscore (cs : List Char) : bare ('_' :: cs) = bare cs :=
  bare_of_merged_eq (merged_underscore cs)

theorem bare_map_toLower {cs : List Char} (parts : ∀ c ∈ cs, isWordPart c = true) :
    bare (cs.map Char.toLower) = bare cs := by
  induction cs with
  | nil =>
      rfl
  | cons c cs ih =>
      have first : bare [c.toLower] = bare [c] :=
        forall_isWordPart (P := fun c => bare [c.toLower] = bare [c]) (by decide)
          (parts c List.mem_cons_self)
      rw [List.map_cons, bare_cons, first, ih fun d listed => parts d (.tail _ listed), ← bare_cons]

/-! ## Abbreviations -/

/-- A replacement that differs in letter case only changes nothing else. -/
theorem bare_replaceFrom {target replacement : List Char} (nonempty : target ≠ [])
    (same : bare replacement = bare target) (skip : Nat) (cs : List Char) :
    bare (replaceFrom target replacement skip cs) = bare (cs.drop skip) := by
  fun_induction replaceFrom target replacement skip cs with
  | case1 skip =>
      rw [List.drop_nil]
  | case2 skip c cs ih =>
      rw [ih, List.drop_succ_cons]
  | case3 c cs found ih =>
      rcases List.isPrefixOf_iff_prefix.1 found with ⟨rest, whole⟩
      have passed : cs.drop (target.length - 1) = rest := by
        cases target with
        | nil =>
            exact absurd rfl nonempty
        | cons d ds =>
            rw [← (List.cons.inj whole).2]
            exact List.drop_left
      rw [bare_append, ih, passed, same, ← bare_append, whole, List.drop_zero]
  | case4 c cs other ih =>
      rw [bare_cons, ih, List.drop_zero, List.drop_zero, ← bare_cons]

theorem bare_unifyAbbreviations (cs : List Char) : bare (unifyAbbreviations cs) = bare cs := by
  have all : ∀ row ∈ abbreviations,
      row.1.toList ≠ [] ∧ bare row.2.toList = bare row.1.toList := by
    decide
  have rewritten (rows : List (String × String)) (listed : rows ⊆ abbreviations)
      (cs : List Char) :
      bare (rows.foldl (fun s row => replaceAll row.1.toList row.2.toList s) cs) = bare cs := by
    induction rows generalizing cs with
    | nil =>
        rfl
    | cons row rest ih =>
        rcases all row (listed List.mem_cons_self) with ⟨nonempty, same⟩
        rw [List.foldl_cons, ih (List.subset_of_cons_subset listed)]
        exact bare_replaceFrom nonempty same 0 cs
  exact rewritten abbreviations (List.Subset.refl _) cs

theorem mem_of_mem_replaceFrom {target replacement : List Char} {skip : Nat} {cs : List Char}
    {c : Char} (h : c ∈ replaceFrom target replacement skip cs) : c ∈ replacement ∨ c ∈ cs := by
  fun_induction replaceFrom target replacement skip cs with
  | case1 skip =>
      cases h
  | case2 skip d cs ih =>
      exact (ih h).imp_right (.tail d)
  | case3 d cs found ih =>
      rcases List.mem_append.1 h with written | later
      · exact .inl written
      · exact (ih later).imp_right (.tail d)
  | case4 d cs other ih =>
      rcases List.mem_cons.1 h with rfl | later
      · exact .inr (.head _)
      · exact (ih later).imp_right (.tail d)

theorem isWordPart_unifyAbbreviations {cs : List Char} (parts : ∀ c ∈ cs, isWordPart c = true) :
    ∀ c ∈ unifyAbbreviations cs, isWordPart c = true := by
  have all : ∀ row ∈ abbreviations, ∀ c ∈ row.2.toList, isWordPart c = true := by
    decide
  have rewritten (rows : List (String × String)) (listed : rows ⊆ abbreviations)
      (cs : List Char) (parts : ∀ c ∈ cs, isWordPart c = true) :
      ∀ c ∈ rows.foldl (fun s row => replaceAll row.1.toList row.2.toList s) cs,
        isWordPart c = true := by
    induction rows generalizing cs with
    | nil =>
        exact parts
    | cons row rest ih =>
        apply ih (List.subset_of_cons_subset listed)
        intro c written
        rcases mem_of_mem_replaceFrom written with new | old
        · exact all row (listed List.mem_cons_self) c new
        · exact parts c old
  exact rewritten abbreviations (List.Subset.refl _) cs parts

/-! ## Snake case -/

/-- The words of a text before its letters are made small. -/
def separatedWords (cs : List Char) : List Char :=
  squeeze (splitCapitals (splitCapitalRuns (unifyAbbreviations cs)))

theorem merged_separatedWords (cs : List Char) :
    merged (separatedWords cs) = merged (unifyAbbreviations cs) := by
  rw [separatedWords, merged_squeeze, merged_splitCapitals, merged_splitCapitalRuns]

theorem bare_separatedWords (cs : List Char) : bare (separatedWords cs) = bare cs :=
  (bare_of_merged_eq (merged_separatedWords cs)).trans (bare_unifyAbbreviations cs)

theorem isWordPart_separatedWords {cs : List Char} (parts : ∀ c ∈ cs, isWordPart c = true) :
    ∀ c ∈ separatedWords cs, isWordPart c = true := by
  intro c written
  rcases mem_of_merged_eq (merged_separatedWords cs) written with rfl | written
  · decide
  · exact isWordPart_unifyAbbreviations parts c written

theorem snakeChars_of_parts {cs : List Char} (parts : ∀ c ∈ cs, isWordPart c = true) :
    snakeChars cs = trimUnderscores ((separatedWords cs).map Char.toLower) := by
  have lowered {ds : List Char} (parts : ∀ c ∈ ds, isWordPart c = true) :
      ds.flatMap LetterCase.lowered = ds.map Char.toLower := by
    rw [List.map_eq_flatMap]
    exact List.flatMap_congr fun c listed => lowered_of_isWordPart (parts c listed)
  rw [snakeChars, ← separatedWords, lowered (isWordPart_separatedWords parts)]

/-- A word and its snake case have the same letters and digits. -/
theorem bare_smallWords {name : String} (parts : ∀ c ∈ name.toList, isWordPart c = true) :
    bare (Identifier.smallWords name) = bare name.toList := by
  have inside := isWordPart_separatedWords parts
  have kept : (snakeChars name.toList).map Identifier.smallOrUnderscore =
      snakeChars name.toList := by
    rw [snakeChars_of_parts parts]
    refine List.map_congr_left (g := id) (fun c written => ?_) |>.trans (List.map_id _)
    rcases List.mem_map.1 (mem_of_mem_trimBy written) with ⟨d, listed, rfl⟩
    exact smallOrUnderscore_toLower (inside d listed)
  rw [Identifier.smallWords, Identifier.separated, kept,
    bare_of_merged_eq (merged_trimUnderscores _), bare_of_merged_eq (merged_squeeze _),
    snakeChars_of_parts parts, bare_of_merged_eq (merged_trimUnderscores _), bare_map_toLower inside,
    bare_separatedWords]

/-! ## Texts with given small letters -/

/-- The texts that differ from a text in small letters by capital letters. -/
def caseVariants : List Char → List (List Char)
  | [] => [[]]
  | c :: cs => (caseVariants cs).flatMap fun rest => [c :: rest, c.toUpper :: rest]

theorem mem_caseVariants {cs : List Char} (parts : ∀ c ∈ cs, isWordPart c = true) :
    cs ∈ caseVariants (cs.map Char.toLower) := by
  induction cs with
  | nil =>
      exact .head _
  | cons c cs ih =>
      refine List.mem_flatMap.2 ⟨cs, ih fun d listed => parts d (.tail _ listed), ?_⟩
      rcases eq_toLower_or_eq_toUpper (parts c List.mem_cons_self) with small | capital
      · rw [← small]
        exact .head _
      · rw [← capital]
        exact .tail _ (.head _)

end Name
end ClusterCodec

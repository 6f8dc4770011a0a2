import ClusterCodec.Proofs.SnakeCase

/-!
# Abbreviations — an abbreviation stays one word in snake case

- `IsCapitalized`: a capital letter and one or more small ones.
- `rewriteRows_between`: rows of capitals rewrite what stands between a capitalised word and small
  letters, and nothing else; `unifyAbbreviations_between` says so of the whole table.
- `Words`: capitalised words, and single capitals before them; `splitWords_flatten` finds the
  boundaries between them again, and `snakeChars_of_words` what becomes of them.
- `snake_abbreviation`: an abbreviation between words is one word, but for the one whose front is
  another abbreviation that is rewritten first.
-/

namespace ClusterCodec
namespace Name

open Text Lexical

/-- A capital letter and one or more small ones. -/
def IsCapitalized (word : List Char) : Prop :=
  ∃ c rest, word = c :: rest ∧ c.isUpper = true ∧ rest ≠ [] ∧ ∀ d ∈ rest, d.isLower = true

theorem isCapitalized_iff {word : List Char} :
    IsCapitalized word ↔ word.head?.any Char.isUpper = true ∧ word.tail ≠ [] ∧
      ∀ d ∈ word.tail, d.isLower = true := by
  constructor
  · rintro ⟨c, rest, rfl, word⟩
    exact word
  · intro h
    match word with
    | [] => cases h.1
    | c :: rest => exact ⟨c, rest, rfl, h⟩

instance : DecidablePred IsCapitalized := fun _ =>
  decidable_of_iff _ isCapitalized_iff.symm

theorem isUpper_of_isLower {c : Char} (small : c.isLower = true) : c.isUpper = false := by
  have range := isLower_iff.1 small
  rw [Bool.eq_false_iff, ne_eq, isUpper_iff]
  omega

theorem isLower_of_isUpper {c : Char} (capital : c.isUpper = true) : c.isLower = false := by
  rw [Bool.eq_false_iff]
  intro small
  rw [isUpper_of_isLower small] at capital
  cases capital

/-! ## Rewriting beside small letters -/

section Rewriting

variable {target replacement front mid back : List Char}

theorem replaceAll_of_fewer_capitals
    (fewer : front.countP Char.isUpper < target.countP Char.isUpper) :
    replaceAll target replacement front = front := by
  apply replaceAll_of_not_occursIn
  rw [Bool.eq_false_iff, ne_eq, occursIn_iff]
  intro inside
  exact Nat.not_le_of_lt fewer inside.sublist.countP_le

theorem countP_isUpper_of_small (small : ∀ d ∈ back, d.isLower = true) :
    back.countP Char.isUpper = 0 := by
  rw [List.countP_eq_zero]
  intro d listed capital
  rw [isUpper_of_isLower (small d listed)] at capital
  cases capital

/-- A capitalised word, or none, has no more than one capital. -/
theorem countP_isUpper_le (word : front = [] ∨ IsCapitalized front) :
    front.countP Char.isUpper ≤ 1 := by
  rcases word with rfl | ⟨c, rest, rfl, capital, -, small⟩
  · exact Nat.zero_le 1
  · rw [List.countP_cons, countP_isUpper_of_small small, capital]
    exact Nat.le_refl 1

/-- A text with two capitals does not occur in one word. -/
theorem replaceAll_of_word (two : 2 ≤ target.countP Char.isUpper)
    (word : front = [] ∨ IsCapitalized front) : replaceAll target replacement front = front := by
  apply replaceAll_of_fewer_capitals
  have one := countP_isUpper_le word
  omega

/-- What consists of capitals does not go on into small letters, nor does it begin in them. -/
theorem not_straddles_of_capitals (capitals : ∀ c ∈ target, c.isUpper = true)
    (small : front.getLast?.all Char.isLower = true ∨ back.head?.any Char.isLower = true) :
    ¬ Straddles target front back := by
  rintro ⟨left, right, rfl, some, more, ⟨before, rfl⟩, ⟨after, rfl⟩⟩
  -- The two letters at the cut belong to the target, and one of them is small.
  rcases small with small | small
  · rw [List.getLast?_append_of_ne_nil _ some, List.getLast?_eq_some_getLast some] at small
    have capital := capitals _ (List.mem_append_left right (List.getLast_mem some))
    rw [Option.all_some, isLower_of_isUpper capital] at small
    cases small
  · rw [List.head?_append_of_ne_nil _ more, List.head?_eq_some_head more] at small
    have capital := capitals _ (List.mem_append_right left (List.head_mem more))
    rw [Option.any_some, isLower_of_isUpper capital] at small
    cases small

theorem replaceAll_between (capitals : ∀ c ∈ target, c.isUpper = true) (two : 2 ≤ target.length)
    (word : front = [] ∨ IsCapitalized front) (some : back ≠ [])
    (small : ∀ d ∈ back, d.isLower = true) :
    replaceAll target replacement (front ++ mid ++ back) =
      front ++ replaceAll target replacement mid ++ back := by
  have count : target.countP Char.isUpper = target.length := List.countP_eq_length.2 capitals
  have untouched : replaceAll target replacement front = front :=
    replaceAll_of_word (count ▸ two) word
  have passed : replaceAll target replacement back = back := by
    apply replaceAll_of_fewer_capitals
    rw [countP_isUpper_of_small small]
    omega
  have ends : front.getLast?.all Char.isLower = true := by
    rcases word with rfl | ⟨c, rest, rfl, -, more, small⟩
    · rfl
    · rw [List.getLast?_cons_of_ne_nil more, List.getLast?_eq_some_getLast more]
      exact small _ (List.getLast_mem more)
  have begins : back.head?.any Char.isLower = true := by
    rw [List.head?_eq_some_head some]
    exact small _ (List.head_mem some)
  -- A target in capitals does not reach over a small letter, so the parts are rewritten one by one.
  calc
    replaceAll target replacement (front ++ mid ++ back)
        = replaceAll target replacement (front ++ (mid ++ back)) := by
          rw [List.append_assoc]
    _ = front ++ replaceAll target replacement (mid ++ back) := by
          rw [replaceAll_append (not_straddles_of_capitals capitals (.inl ends)), untouched]
    _ = front ++ (replaceAll target replacement mid ++ back) := by
          rw [replaceAll_append (not_straddles_of_capitals capitals (.inr begins)), passed]
    _ = front ++ replaceAll target replacement mid ++ back := (List.append_assoc _ _ _).symm

end Rewriting

/-! ## The table -/

/-- Applies the rows of a table one after the other. -/
def rewriteRows (rows : List (String × String)) (cs : List Char) : List Char :=
  rows.foldl (fun s row => replaceAll row.1.toList row.2.toList s) cs

/-- All rows but the first one consist of capitals. -/
theorem capitals_of_mem_tail : ∀ row ∈ abbreviations.tail,
    (∀ c ∈ row.1.toList, c.isUpper = true) ∧ 2 ≤ row.1.toList.length := by
  decide

theorem rewriteRows_cons (row : String × String) (rows : List (String × String)) (cs : List Char) :
    rewriteRows (row :: rows) cs =
      rewriteRows rows (replaceAll row.1.toList row.2.toList cs) :=
  rfl

theorem unifyAbbreviations_eq (cs : List Char) :
    unifyAbbreviations cs =
      rewriteRows abbreviations.tail (replaceAll "WiFi".toList "Wifi".toList cs) := by
  have table : abbreviations = ("WiFi", "Wifi") :: abbreviations.tail := rfl
  rw [← rewriteRows_cons ("WiFi", "Wifi"), ← table]
  rfl

section Table

variable {p w : List Char}

theorem rewriteRows_between {rows : List (String × String)} (listed : rows ⊆ abbreviations.tail)
    (word : p = [] ∨ IsCapitalized p) (some : w ≠ []) (small : ∀ d ∈ w, d.isLower = true)
    (mid : List Char) : rewriteRows rows (p ++ mid ++ w) = p ++ rewriteRows rows mid ++ w := by
  induction rows generalizing mid with
  | nil => rfl
  | cons row rows ih =>
      rcases capitals_of_mem_tail row (listed List.mem_cons_self) with ⟨capitals, two⟩
      calc
        rewriteRows (row :: rows) (p ++ mid ++ w)
            = rewriteRows rows (replaceAll row.1.toList row.2.toList (p ++ mid ++ w)) :=
              rewriteRows_cons _ _ _
        _ = rewriteRows rows (p ++ replaceAll row.1.toList row.2.toList mid ++ w) := by
              rw [replaceAll_between capitals two word some small]
        _ = p ++ rewriteRows (row :: rows) mid ++ w :=
              ih (List.subset_of_cons_subset listed) _

/-- The first row goes on into a capital after its second letter only. -/
theorem straddles_wifi {front back : List Char} (capital : back.head?.any Char.isUpper = true)
    (h : Straddles ['W', 'i', 'F', 'i'] front back) : ['W', 'i'] <:+ front ∧ ['F', 'i'] <+: back := by
  rcases h with ⟨left, right, split, some, more, ends, after, rfl⟩
  rw [List.head?_append_of_ne_nil _ more] at capital
  -- One case for each length of the part before the cut; the letter after the cut is a capital.
  rcases left with _ | ⟨a, _ | ⟨b, _ | ⟨c, _ | ⟨d, left⟩⟩⟩⟩
  · exact absurd rfl some
  · cases split
    cases capital
  · cases split
    exact ⟨ends, List.prefix_append _ _⟩
  · cases split
    cases capital
  · have short := congrArg List.length split
    have some' := List.length_pos_iff.2 more
    rw [List.length_append] at short
    simp only [List.length_cons, List.length_nil] at short
    omega

/-- A row begins with a capital, and neither begins with the second half of the first row nor ends
with its first half. -/
theorem row_ends : ∀ row ∈ abbreviations, row.1.toList.head?.any Char.isUpper = true ∧
    2 ≤ row.1.toList.length ∧ ¬ ['F', 'i'] <+: row.1.toList ∧ ¬ ['W', 'i'] <:+ row.1.toList := by
  decide

theorem replaceAll_wifi {row : String × String} (listed : row ∈ abbreviations)
    (word : p = [] ∨ IsCapitalized p) (next : IsCapitalized w) :
    replaceAll "WiFi".toList "Wifi".toList (p ++ row.1.toList ++ w) =
      p ++ replaceAll "WiFi".toList "Wifi".toList row.1.toList ++ w := by
  rcases row_ends row listed with ⟨capital, two, noFront, noEnd⟩
  have chars : "WiFi".toList = ['W', 'i', 'F', 'i'] := rfl
  have count : 2 ≤ "WiFi".toList.countP Char.isUpper := by
    decide
  -- The target could reach over an end of the row only with one of its halves on each side.
  have before : ¬ Straddles "WiFi".toList p (row.1.toList ++ w) := by
    intro h
    rw [chars] at h
    have begins : ['F', 'i'] <+: row.1.toList ++ w := by
      refine (straddles_wifi ?_ h).2
      rw [List.head?_append_of_ne_nil _ (List.length_pos_iff.1 (by omega))]
      exact capital
    exact noFront (List.prefix_of_prefix_length_le begins (List.prefix_append _ w) two)
  have after : ¬ Straddles "WiFi".toList row.1.toList w := by
    intro h
    rw [chars] at h
    rcases next with ⟨c, rest, rfl, upper, -⟩
    have capital : (c :: rest).head?.any Char.isUpper = true := upper
    exact noEnd (straddles_wifi capital h).1
  calc
    replaceAll "WiFi".toList "Wifi".toList (p ++ row.1.toList ++ w)
        = replaceAll "WiFi".toList "Wifi".toList (p ++ (row.1.toList ++ w)) := by
          rw [List.append_assoc]
    _ = p ++ (replaceAll "WiFi".toList "Wifi".toList row.1.toList ++ w) := by
          rw [replaceAll_append before, replaceAll_append after, replaceAll_of_word count word,
            replaceAll_of_word count (.inr next)]
    _ = p ++ replaceAll "WiFi".toList "Wifi".toList row.1.toList ++ w :=
          (List.append_assoc _ _ _).symm

/-- The words that the table makes of an abbreviation. The row of `HTTP` stands before the one of
`HTTPS` and rewrites its front, so that the second one finds nothing. -/
def rowWords (row : String × String) : List (List Char) :=
  if row.1 = "HTTPS" then ["Http".toList, ['S']] else [row.2.toList]

/-- No row goes on from the text, as the rows before it leave it, into one more character. -/
def standsApart : List (String × String) → List Char → Bool
  | [], _ => true
  | row :: rows, cs =>
    !row.1.toList.dropLast.isSuffixOf cs &&
      standsApart rows (replaceAll row.1.toList row.2.toList cs)

theorem not_straddles_singleton {target front : List Char} {c : Char}
    (apart : target.dropLast.isSuffixOf front = false) : ¬ Straddles target front [c] := by
  rintro ⟨left, right, rfl, -, more, ends, begins⟩
  have last : right = [c] := begins.eq_of_length_le (List.length_pos_iff.2 more)
  rw [last, List.dropLast_concat, List.isSuffixOf_iff_suffix.2 ends] at apart
  cases apart

theorem replaceAll_singleton {target replacement : List Char} (two : 2 ≤ target.length) (c : Char) :
    replaceAll target replacement [c] = [c] := by
  apply replaceAll_of_not_occursIn
  rw [Bool.eq_false_iff, ne_eq, occursIn_iff]
  intro inside
  have short : target.length ≤ 1 := inside.length_le
  omega

theorem rewriteRows_append_singleton {rows : List (String × String)}
    (listed : rows ⊆ abbreviations.tail) {cs : List Char} (apart : standsApart rows cs = true)
    (c : Char) : rewriteRows rows (cs ++ [c]) = rewriteRows rows cs ++ [c] := by
  induction rows generalizing cs with
  | nil => rfl
  | cons row rows ih =>
      rw [standsApart, Bool.and_eq_true, Bool.not_eq_true'] at apart
      have two := (capitals_of_mem_tail row (listed List.mem_cons_self)).2
      calc
        rewriteRows (row :: rows) (cs ++ [c])
            = rewriteRows rows (replaceAll row.1.toList row.2.toList (cs ++ [c])) :=
              rewriteRows_cons _ _ _
        _ = rewriteRows rows (replaceAll row.1.toList row.2.toList cs ++ [c]) := by
              rw [replaceAll_append (not_straddles_singleton apart.1), replaceAll_singleton two]
        _ = rewriteRows (row :: rows) cs ++ [c] :=
              ih (List.subset_of_cons_subset listed) apart.2

theorem rewriteRows_row : ∀ row ∈ abbreviations,
    standsApart abbreviations.tail (replaceAll "WiFi".toList "Wifi".toList row.1.toList) = true ∧
      unifyAbbreviations row.1.toList = (rowWords row).flatten := by
  decide +kernel

theorem unifyAbbreviations_between {row : String × String} (listed : row ∈ abbreviations)
    (word : p = [] ∨ IsCapitalized p) (next : IsCapitalized w) :
    unifyAbbreviations (p ++ row.1.toList ++ w) = p ++ (rowWords row).flatten ++ w := by
  rw [unifyAbbreviations_eq, replaceAll_wifi listed word next]
  rcases next with ⟨c, rest, rfl, -, some, small⟩
  obtain ⟨apart, alone⟩ := rewriteRows_row row listed
  rw [unifyAbbreviations_eq] at alone
  -- The capital after the abbreviation goes with it, for a row might end in it.
  have moved (mid : List Char) : p ++ mid ++ c :: rest = p ++ (mid ++ [c]) ++ rest := by
    simp
  rw [moved, rewriteRows_between (List.Subset.refl _) word some small,
    rewriteRows_append_singleton (List.Subset.refl _) apart, alone, moved]

end Table

/-! ## Boundaries between words -/

/-- Both kinds of boundary, as the conversion looks for them. -/
def splitWords (cs : List Char) : List Char :=
  splitCapitals (splitCapitalRuns cs)

section Boundaries

variable {a b c : Char} {cs ds : List Char}

theorem splitCapitalRuns_small (small : a.isUpper = false) :
    splitCapitalRuns (a :: cs) = a :: splitCapitalRuns cs := by
  cases cs with
  | nil => rfl
  | cons b cs =>
      rw [splitCapitalRuns, small, Bool.false_and, Bool.false_and, if_neg Bool.false_ne_true]

theorem splitCapitalRuns_smalls (small : ∀ d ∈ ds, d.isLower = true) :
    splitCapitalRuns (ds ++ cs) = ds ++ splitCapitalRuns cs := by
  induction ds with
  | nil => rfl
  | cons d ds ih =>
      rw [List.cons_append, splitCapitalRuns_small (isUpper_of_isLower (small d List.mem_cons_self)),
        ih fun e listed => small e (.tail _ listed), List.cons_append]

theorem splitCapitalRuns_word (word : IsCapitalized ds) :
    splitCapitalRuns (ds ++ cs) = ds ++ splitCapitalRuns cs := by
  rcases word with ⟨c, rest, rfl, -, some, small⟩
  cases rest with
  | nil => exact absurd rfl some
  | cons d rest =>
      have next : d.isUpper = false := isUpper_of_isLower (small d List.mem_cons_self)
      have later : splitCapitalRuns (d :: (rest ++ cs)) = (d :: rest) ++ splitCapitalRuns cs :=
        splitCapitalRuns_smalls small
      rw [List.cons_append, List.cons_append, splitCapitalRuns, next, Bool.and_false,
        Bool.false_and, if_neg Bool.false_ne_true, later]
      rfl

/-- A single capital is set apart from a capitalised word. -/
theorem splitCapitalRuns_letter (capital : c.isUpper = true) (word : IsCapitalized ds) :
    splitCapitalRuns (c :: (ds ++ cs)) = c :: '_' :: splitCapitalRuns (ds ++ cs) := by
  rcases word with ⟨d, rest, rfl, upper, some, small⟩
  cases rest with
  | nil => exact absurd rfl some
  | cons e rest =>
      have boundary : (c.isUpper && d.isUpper && (e :: (rest ++ cs)).head?.any Char.isLower) =
          true := by
        rw [capital, upper]
        exact small e List.mem_cons_self
      rw [List.cons_append, List.cons_append, splitCapitalRuns, if_pos boundary]

theorem head?_splitCapitalRuns (cs : List Char) : (splitCapitalRuns cs).head? = cs.head? := by
  fun_cases splitCapitalRuns cs <;> rfl

theorem splitCapitals_other (small : a.isLower = false) (digit : a.isDigit = false) :
    splitCapitals (a :: cs) = a :: splitCapitals cs := by
  cases cs with
  | nil => rfl
  | cons b cs =>
      rw [splitCapitals, small, digit, Bool.or_self, Bool.false_and, if_neg Bool.false_ne_true]

theorem splitCapitals_capital (capital : a.isUpper = true) :
    splitCapitals (a :: cs) = a :: splitCapitals cs := by
  have range := isUpper_iff.1 capital
  apply splitCapitals_other (isLower_of_isUpper capital)
  rw [Bool.eq_false_iff, ne_eq, isDigit_iff]
  omega

theorem splitCapitals_inside (small : b.isUpper = false) :
    splitCapitals (a :: b :: cs) = a :: splitCapitals (b :: cs) := by
  rw [splitCapitals, small, Bool.and_false, if_neg Bool.false_ne_true]

theorem splitCapitals_all_small (small : ∀ d ∈ ds, d.isLower = true) : splitCapitals ds = ds :=
  splitCapitals_of_no_capitals fun d listed => isUpper_of_isLower (small d listed)

/-- Small letters are set apart from the capital that follows them. -/
theorem splitCapitals_smalls (some : ds ≠ []) (small : ∀ d ∈ ds, d.isLower = true)
    (capital : cs.head?.any Char.isUpper = true) :
    splitCapitals (ds ++ cs) = ds ++ '_' :: splitCapitals cs := by
  induction ds with
  | nil => exact absurd rfl some
  | cons d ds ih =>
      cases ds with
      | nil =>
          -- The last small letter has the capital behind it.
          cases cs with
          | nil => cases capital
          | cons c cs =>
              have boundary : ((d.isLower || d.isDigit) && c.isUpper) = true := by
                rw [small d List.mem_cons_self, Bool.true_or]
                exact capital
              rw [List.singleton_append, splitCapitals, if_pos boundary]
              rfl
      | cons e ds =>
          have next : e.isUpper = false := isUpper_of_isLower (small e (.tail _ List.mem_cons_self))
          have later := ih (List.cons_ne_nil e ds) fun f listed => small f (.tail _ listed)
          rw [List.cons_append] at later
          rw [List.cons_append, List.cons_append, splitCapitals_inside next, later]
          rfl

/-! ### Words in a row -/

theorem splitWords_word (word : IsCapitalized ds) : splitWords ds = ds := by
  have runs : splitCapitalRuns ds = ds := by
    calc
      splitCapitalRuns ds = splitCapitalRuns (ds ++ []) := by
        rw [List.append_nil]
      _ = ds ++ splitCapitalRuns [] := splitCapitalRuns_word word
      _ = ds := List.append_nil ds
  rcases word with ⟨c, rest, rfl, capital, -, small⟩
  rw [splitWords, runs, splitCapitals_capital capital, splitCapitals_all_small small]

theorem splitWords_word_append (word : IsCapitalized ds)
    (capital : cs.head?.any Char.isUpper = true) :
    splitWords (ds ++ cs) = ds ++ '_' :: splitWords cs := by
  rw [splitWords, splitCapitalRuns_word word]
  -- The first pass leaves the capital behind the word at its place.
  rw [← head?_splitCapitalRuns] at capital
  rcases word with ⟨c, rest, rfl, upper, some, small⟩
  rw [List.cons_append, splitCapitals_capital upper, splitCapitals_smalls some small capital]
  rfl

theorem splitWords_letter_append (capital : c.isUpper = true) (word : IsCapitalized ds) :
    splitWords (c :: (ds ++ cs)) = c :: '_' :: splitWords (ds ++ cs) := by
  rw [splitWords, splitCapitalRuns_letter capital word, splitCapitals_capital capital,
    splitCapitals_other (by decide) (by decide)]
  rfl

end Boundaries

/-- Capitalised words, and single capitals with a capitalised word behind them. -/
inductive Words : List (List Char) → Prop where
  | last {a : List Char} : IsCapitalized a → Words [a]
  | word {a b : List Char} {rest : List (List Char)} :
      IsCapitalized a → Words (b :: rest) → Words (a :: b :: rest)
  | letter {c : Char} {b : List Char} {rest : List (List Char)} :
      c.isUpper = true → IsCapitalized b → Words (b :: rest) → Words ([c] :: b :: rest)

namespace Words

variable {words : List (List Char)}

theorem head?_flatten (h : Words words) : words.flatten.head?.any Char.isUpper = true := by
  cases h with
  | last word =>
      rcases word with ⟨c, rest, rfl, capital, -⟩
      exact capital
  | word word _ =>
      rcases word with ⟨c, rest, rfl, capital, -⟩
      exact capital
  | letter capital _ _ => exact capital

/-- The boundaries between words are found again. -/
theorem splitWords_flatten (h : Words words) :
    splitWords words.flatten = ['_'].intercalate words := by
  induction h with
  | last word =>
      rw [List.flatten_singleton, List.intercalate_singleton, splitWords_word word]
  | @word a b rest word later ih =>
      rw [List.flatten_cons, splitWords_word_append word later.head?_flatten, ih,
        List.intercalate_cons_cons, List.append_assoc]
      rfl
  | @letter c b rest capital word later ih =>
      rw [List.flatten_cons] at ih
      rw [List.flatten_cons, List.flatten_cons, List.singleton_append,
        splitWords_letter_append capital word, ih, List.intercalate_cons_cons]
      rfl

end Words

/-! ## Words joined by underscores -/

/-- A text of word characters with single underscores, and letters at its two ends. -/
structure Neat (cs : List Char) : Prop where
  parts : ∀ c ∈ cs, isWordPart c = true
  single : Single cs
  first : cs.head?.any Char.isAlpha = true
  last : cs.getLast?.any Char.isAlpha = true

namespace Neat

variable {a b cs : List Char}

theorem ne_underscore_of_isAlpha {c : Char} (letter : c.isAlpha = true) : c ≠ '_' := by
  rintro rfl
  cases letter

theorem of_letters (some : cs ≠ []) (letters : ∀ c ∈ cs, c.isAlpha = true) : Neat cs where
  parts c listed := isWordPart_of_isAlphanum (isAlphanum_iff.2 (.inl (letters c listed)))
  single := by
    refine List.Pairwise.isChain (List.pairwise_of_forall_mem_list fun c listed _ _ both => ?_)
    exact ne_underscore_of_isAlpha (letters c listed) both.1
  first := by
    rw [List.head?_eq_some_head some]
    exact letters _ (List.head_mem some)
  last := by
    rw [List.getLast?_eq_some_getLast some]
    exact letters _ (List.getLast_mem some)

theorem join (front : Neat a) (back : Neat b) : Neat (a ++ ['_'] ++ b) := by
  -- The underscore stands between two letters, so it is a single one inside the text.
  obtain ⟨first, begins, letter⟩ := (Option.any_eq_true _ _).1 front.first
  obtain ⟨last, ends, letter'⟩ := (Option.any_eq_true _ _).1 back.last
  have apart : Single (a ++ ['_']) := by
    refine List.isChain_append.2 ⟨front.single, .singleton _, fun c listed d _ both => ?_⟩
    have letter := front.last
    rw [Option.mem_def.1 listed] at letter
    exact ne_underscore_of_isAlpha letter both.1
  refine ⟨?_, ?_, ?_, ?_⟩
  · intro c listed
    rcases List.mem_append.1 listed with listed | listed
    · rcases List.mem_append.1 listed with listed | listed
      · exact front.parts c listed
      · rw [List.mem_singleton.1 listed]
        rfl
    · exact back.parts c listed
  · refine List.isChain_append.2 ⟨apart, back.single, fun c _ d listed both => ?_⟩
    have letter := back.first
    rw [Option.mem_def.1 listed] at letter
    exact ne_underscore_of_isAlpha letter both.2
  · rw [List.append_assoc, List.head?_append, begins]
    exact letter
  · rw [List.getLast?_append, ends]
    exact letter'

/-- What is left to do with such a text is to make its letters small. -/
theorem trimmed (neat : Neat cs) :
    trimUnderscores ((squeeze cs).flatMap LetterCase.lowered) = cs.map Char.toLower := by
  have lowered : cs.flatMap LetterCase.lowered = cs.map Char.toLower := by
    rw [List.map_eq_flatMap]
    exact List.flatMap_congr fun c listed => lowered_of_isWordPart (neat.parts c listed)
  have letter {end? : Option Char} (h : end?.any Char.isAlpha = true) :
      ∀ c, end?.map Char.toLower = some c → (c == '_') = false := by
    intro c same
    obtain ⟨d, rfl, alpha⟩ := (Option.any_eq_true _ _).1 h
    cases same
    have part : isWordPart d = true := isWordPart_of_isAlphanum (isAlphanum_iff.2 (.inl alpha))
    exact forall_isWordPart (P := fun c => c.isAlpha = true → (c.toLower == '_') = false)
      (by decide) part alpha
  rw [squeeze_of_single neat.single, lowered]
  apply trimBy_eq_self
  · rw [List.head?_map]
    exact letter neat.first
  · rw [List.getLast?_map]
    exact letter neat.last

end Neat

theorem IsCapitalized.neat {word : List Char} (h : IsCapitalized word) : Neat word := by
  rcases h with ⟨c, rest, rfl, capital, -, small⟩
  refine Neat.of_letters (List.cons_ne_nil c rest) fun d listed => isAlpha_iff.2 ?_
  rcases List.mem_cons.1 listed with rfl | listed
  · exact .inl capital
  · exact .inr (small d listed)

theorem neat_of_isUpper {c : Char} (capital : c.isUpper = true) : Neat [c] := by
  refine Neat.of_letters (List.cons_ne_nil c []) fun d listed => isAlpha_iff.2 (.inl ?_)
  rwa [List.mem_singleton.1 listed]

namespace Words

variable {words : List (List Char)}

theorem neat_intercalate (h : Words words) : Neat (['_'].intercalate words) := by
  induction h with
  | last word =>
      rw [List.intercalate_singleton]
      exact word.neat
  | word word _ ih =>
      rw [List.intercalate_cons_cons]
      exact word.neat.join ih
  | letter capital _ _ ih =>
      rw [List.intercalate_cons_cons]
      exact (neat_of_isUpper capital).join ih

/-- Words in a row are set apart and written small. -/
theorem snakeChars_eq {cs : List Char} (h : Words words)
    (unified : unifyAbbreviations cs = words.flatten) :
    snakeChars cs = (['_'].intercalate words).map Char.toLower := by
  have apart : splitCapitals (splitCapitalRuns words.flatten) = ['_'].intercalate words :=
    h.splitWords_flatten
  rw [snakeChars, unified, apart, h.neat_intercalate.trimmed]

theorem cons {a : List Char} (word : IsCapitalized a) (h : Words words) : Words (a :: words) := by
  cases h with
  | last next => exact .word word (.last next)
  | word next later => exact .word word (.word next later)
  | letter capital next later => exact .word word (.letter capital next later)

end Words

/-! ## Abbreviations between words -/

theorem isCapitalized_row : ∀ row ∈ abbreviations, IsCapitalized row.2.toList := by
  decide

theorem words_row {row : String × String} (listed : row ∈ abbreviations) {w : List Char}
    (next : IsCapitalized w) : Words (rowWords row ++ [w]) := by
  unfold rowWords
  split
  · exact .word (by decide) (.letter (by decide) next (.last next))
  · exact .word (isCapitalized_row row listed) (.last next)

/-- Words in small letters with underscores between them. Empty ones are left out. -/
def joinSmall (words : List String) : String :=
  String.ofList (['_'].intercalate ((words.filter (· ≠ "")).map (·.toList.map Char.toLower)))

theorem map_intercalate_underscore (words : List (List Char)) :
    (['_'].intercalate words).map Char.toLower =
      ['_'].intercalate (words.map (·.map Char.toLower)) := by
  induction words with
  | nil => rfl
  | cons a words ih =>
      cases words with
      | nil =>
          rw [List.map_singleton, List.intercalate_singleton, List.intercalate_singleton]
      | cons b words =>
          rw [List.intercalate_cons_cons, List.map_append, List.map_append, ih]
          exact List.intercalate_cons_cons.symm

theorem toList_joinSmall {words : List String} (filled : ∀ word ∈ words, word ≠ "") :
    (joinSmall words).toList = ['_'].intercalate (words.map (·.toList.map Char.toLower)) := by
  have kept : words.filter (· ≠ "") = words :=
    List.filter_eq_self.2 fun word listed => decide_eq_true (filled word listed)
  rw [joinSmall, kept, String.toList_ofList]

theorem joinSmall_empty_cons (words : List String) : joinSmall ("" :: words) = joinSmall words :=
  rfl

/-- The words of an abbreviation in the text. -/
def parts (row : String × String) : List String :=
  if row.1 = "HTTPS" then ["HTTP", "S"] else [row.1]

theorem small_rowWords : ∀ row ∈ abbreviations,
    (rowWords row).map (·.map Char.toLower) = (parts row).map (·.toList.map Char.toLower) := by
  decide

theorem parts_ne_empty : ∀ row ∈ abbreviations, ∀ part ∈ parts row, part ≠ "" := by
  decide

theorem ne_empty_of_isCapitalized {word : String} (h : IsCapitalized word.toList) : word ≠ "" := by
  rintro rfl
  cases (isCapitalized_iff.1 h).1

section Row

variable {row : String × String} {p w : String}

/-- A name that the table turns into words in a row has these words in its snake case. -/
theorem snake_of_words {words : List String} {texts : List (List Char)} {name : String}
    (filled : ∀ word ∈ words, word ≠ "") (h : Words texts)
    (unified : unifyAbbreviations name.toList = texts.flatten)
    (small : texts.map (·.map Char.toLower) = words.map (·.toList.map Char.toLower)) :
    snake name = joinSmall words := by
  apply String.toList_inj.1
  rw [snake, String.toList_ofList, h.snakeChars_eq unified, toList_joinSmall filled, ← small]
  exact map_intercalate_underscore texts

theorem snake_row (listed : row ∈ abbreviations) (front : p = "" ∨ IsCapitalized p.toList)
    (back : IsCapitalized w.toList) :
    snake (p ++ row.1 ++ w) = joinSmall (p :: parts row ++ [w]) := by
  have filled : ∀ word ∈ parts row ++ [w], word ≠ "" := by
    intro word inside
    rcases List.mem_append.1 inside with inside | inside
    · exact parts_ne_empty row listed word inside
    · rw [List.mem_singleton.1 inside]
      exact ne_empty_of_isCapitalized back
  have small : (rowWords row ++ [w.toList]).map (·.map Char.toLower) =
      (parts row ++ [w]).map (·.toList.map Char.toLower) := by
    rw [List.map_append, List.map_append, small_rowWords row listed]
    rfl
  have unified (word : p.toList = [] ∨ IsCapitalized p.toList) :
      unifyAbbreviations (p ++ row.1 ++ w).toList =
        p.toList ++ (rowWords row ++ [w.toList]).flatten := by
    rw [String.toList_append, String.toList_append, unifyAbbreviations_between listed word back,
      List.flatten_append, List.flatten_singleton, List.append_assoc]
  -- An empty first word is no word of the name.
  rcases front with rfl | word
  · rw [List.cons_append, joinSmall_empty_cons]
    exact snake_of_words filled (words_row listed back) (unified (.inl rfl)) small
  · refine snake_of_words ?_ (.cons word (words_row listed back)) (unified (.inr word)) ?_
    · intro part inside
      rcases List.mem_cons.1 inside with rfl | inside
      · exact ne_empty_of_isCapitalized word
      · exact filled part inside
    · exact congrArg (p.toList.map Char.toLower :: ·) small

/-- The words of `HTTPS` have one underscore more than the abbreviation itself. -/
theorem length_joinSmall_https (front : p = "" ∨ IsCapitalized p.toList)
    (back : IsCapitalized w.toList) :
    (joinSmall [p, "HTTP", "S", w]).toList.length =
      (joinSmall [p, "HTTPS", w]).toList.length + 1 := by
  have last : w ≠ "" := ne_empty_of_isCapitalized back
  rcases front with rfl | word
  · rw [joinSmall_empty_cons, joinSmall_empty_cons, toList_joinSmall (by simp [last]),
      toList_joinSmall (by simp [last])]
    simp +arith [List.intercalate_cons_cons]
  · have first : p ≠ "" := ne_empty_of_isCapitalized word
    rw [toList_joinSmall (by simp [first, last]), toList_joinSmall (by simp [first, last])]
    simp +arith [List.intercalate_cons_cons]

theorem joinSmall_parts_iff (front : p = "" ∨ IsCapitalized p.toList)
    (back : IsCapitalized w.toList) :
    joinSmall (p :: parts row ++ [w]) = joinSmall [p, row.1, w] ↔ row.1 ≠ "HTTPS" := by
  constructor
  · intro same https
    have long := length_joinSmall_https front back
    rw [parts, if_pos https, https] at same
    have short : (joinSmall [p, "HTTP", "S", w]).toList.length =
        (joinSmall [p, "HTTPS", w]).toList.length := congrArg (·.toList.length) same
    omega
  · intro other
    rw [parts, if_neg other]
    rfl

/-- An abbreviation before a capitalised word, and after one or none, is one word of the snake case,
but for `HTTPS`: that becomes two, for the row of `HTTP` comes first. -/
theorem snake_abbreviation (listed : row ∈ abbreviations) (front : p = "" ∨ IsCapitalized p.toList)
    (back : IsCapitalized w.toList) :
    snake (p ++ row.1 ++ w) = joinSmall (p :: parts row ++ [w]) ∧
      (snake (p ++ row.1 ++ w) = joinSmall [p, row.1, w] ↔ row.1 ≠ "HTTPS") := by
  have words := snake_row listed front back
  refine ⟨words, ?_⟩
  rw [words]
  exact joinSmall_parts_iff front back

theorem snake_abbreviation_set_pin_code :
    ("PIN", "Pin") ∈ abbreviations ∧ IsCapitalized "Set".toList ∧ IsCapitalized "Code".toList ∧
      snake ("Set" ++ "PIN" ++ "Code") = "set_pin_code" := by
  have listed : ("PIN", "Pin") ∈ abbreviations := by
    decide
  have front : IsCapitalized "Set".toList := by
    decide
  have back : IsCapitalized "Code".toList := by
    decide
  have words : joinSmall ["Set", "PIN", "Code"] = "set_pin_code" := by
    decide
  refine ⟨listed, front, back, ?_⟩
  exact ((snake_abbreviation listed (.inr front) back).2.2 (by decide)).trans words

/-- The abbreviation `HTTPS` is not kept together. -/
theorem snake_ne_https_proxy :
    ("HTTPS", "Https") ∈ abbreviations ∧ IsCapitalized "Proxy".toList ∧
      snake ("" ++ "HTTPS" ++ "Proxy") = "http_s_proxy" ∧
      joinSmall ["", "HTTPS", "Proxy"] = "https_proxy" := by
  decide

end Row

end Name
end ClusterCodec

import ClusterCodec.Proofs.NameOwnership
import ClusterCodec.Proofs.SnakeLetters

/-!
# PathNames — items that define a name which generated code relies on

- `pathNames`: the names that generated code uses without a path before them.
- `madeFrom_cases`: how words become a name; `madeFrom_eq_iff` says when it is a given one.
- `moduleSpellings`: the bitmap names whose module has one of these names; `ofField_ofWords_iff` says
  that there are no others.
- `Item.Spells`: the name in the document spells one of these names.
- `mem_typeNames_iff_spells`: an emitted item defines one of these names iff its own name spells it.
- `captures_thermo`: items that do.
-/

namespace ClusterCodec

open Text Lexical

namespace Name
namespace Identifier

/-! ## Words that become a name -/

/-- The name that words become, with one for no words at all. -/
def madeFrom (otherwise : String) (ident : List Char) : String :=
  if ident.isEmpty then otherwise
  else if startsWithDigit ident then String.ofList ('_' :: ident)
  else escapeReserved (String.ofList ident)

theorem ofWords_eq_madeFrom (cs : List Char) : ofWords cs = madeFrom "Unknown" (joinedWords cs) :=
  rfl

theorem ofField_eq_madeFrom (name : String) : ofField name = madeFrom "field" (smallWords name) :=
  rfl

theorem madeFrom_cases (otherwise : String) (ident : List Char) :
    (ident = [] ∧ madeFrom otherwise ident = otherwise) ∨
      (startsWithDigit ident = true ∧ madeFrom otherwise ident = String.ofList ('_' :: ident)) ∨
      (String.ofList ident ∈ reservedWords ∧
        madeFrom otherwise ident = String.ofList ident ++ "_") ∨
      madeFrom otherwise ident = String.ofList ident := by
  unfold madeFrom
  split
  · next empty =>
      exact .inl ⟨List.isEmpty_iff.1 empty, rfl⟩
  · split
    · next digit =>
        exact .inr (.inl ⟨digit, rfl⟩)
    · unfold escapeReserved
      split
      · next reserved =>
          exact .inr (.inr (.inl ⟨reserved, rfl⟩))
      · exact .inr (.inr (.inr rfl))

/-- A name that begins with a letter and is not made up for other words. -/
def Plain (otherwise n : String) : Prop :=
  n.toList.head?.any Char.isAlpha = true ∧ n.toList.getLast? ≠ some '_' ∧ n ≠ otherwise ∧
    n ∉ reservedWords

instance (otherwise n : String) : Decidable (Plain otherwise n) :=
  inferInstanceAs (Decidable (_ ∧ _))

theorem madeFrom_eq_iff {otherwise n : String} {ident : List Char} (plain : Plain otherwise n) :
    madeFrom otherwise ident = n ↔ ident = n.toList := by
  rcases plain with ⟨letter, ends, known, free⟩
  constructor
  · rintro rfl
    -- What is made up for other words is the known name or has an underscore at one of its ends.
    rcases madeFrom_cases otherwise ident with ⟨-, same⟩ | ⟨-, same⟩ | ⟨-, same⟩ | same
    · exact absurd same known
    · rw [same, String.toList_ofList] at letter
      cases letter
    · rw [same, String.toList_append] at ends
      exact absurd List.getLast?_concat ends
    · rw [same, String.toList_ofList]
  · rintro rfl
    have begins : n.toList.isEmpty = false ∧ startsWithDigit n.toList = false := by
      unfold startsWithDigit
      cases chars : n.toList with
      | nil =>
          rw [chars] at letter
          cases letter
      | cons c rest =>
          rw [chars] at letter
          refine ⟨rfl, isDigit_eq_false_of_isWordStart ?_⟩
          exact isWordStart_iff.2 (.inl letter)
    rw [madeFrom, begins.1, begins.2, String.ofList_toList, escapeReserved, if_neg free]
    rfl

/-- The words that the name of a type is made of. -/
def typeWords (name suffix : String) (keepSuffix : Bool) : List Char :=
  joinedWords (if keepSuffix then name.toList else withoutSuffix suffix.toList name.toList)

/-! ### The first letter -/

theorem isLower_toUpper (c : Char) : c.toUpper.isLower = false := by
  cases small : c.isLower with
  | true =>
      have part : isWordPart c = true :=
        isWordPart_of_isAlphanum (isAlphanum_iff.2 (.inl (isAlpha_iff.2 (.inr small))))
      exact forall_isWordPart (P := fun c => c.toUpper.isLower = false) (by decide) part
  | false =>
      have same : c.toUpper = c := by
        refine dif_neg fun range => ?_
        rw [isLower_iff.2 range] at small
        cases small
      rw [same, small]

theorem head_joinedWords (cs : List Char) :
    (joinedWords cs).head?.any Char.isLower = false := by
  unfold joinedWords
  induction runsBetween (fun c => !c.isAlphanum) cs with
  | nil =>
      rfl
  | cons run runs ih =>
      cases run with
      | nil =>
          exact ih
      | cons c rest =>
          exact isLower_toUpper c

/-- No type begins with a small letter. -/
theorem head_ofWords (cs : List Char) : (ofWords cs).toList.head?.any Char.isLower = false := by
  have head := head_joinedWords cs
  rw [ofWords_eq_madeFrom]
  rcases madeFrom_cases "Unknown" (joinedWords cs) with ⟨-, same⟩ | ⟨-, same⟩ | ⟨-, same⟩ | same
  · rw [same]
    decide
  · rw [same, String.toList_ofList]
    rfl
  · rw [same, String.toList_append, String.toList_ofList]
    cases words : joinedWords cs with
    | nil =>
        rfl
    | cons c rest =>
        rw [words] at head
        exact head
  · rw [same, String.toList_ofList]
    exact head

theorem isUpper_smallOrUnderscore (c : Char) : (smallOrUnderscore c).isUpper = false := by
  rw [smallOrUnderscore]
  split
  · next small =>
      refine Bool.eq_false_iff.2 fun capital => ?_
      have range := isUpper_iff.1 capital
      rcases Bool.or_eq_true_iff.1 small with lower | digit
      · have other := isLower_iff.1 lower
        omega
      · have other := isDigit_iff.1 digit
        omega
  · rfl

/-- No field or module has a capital letter. -/
theorem isUpper_of_mem_ofField {name : String} {c : Char} (h : c ∈ (ofField name).toList) :
    c.isUpper = false := by
  have small : ∀ c ∈ smallWords name, c.isUpper = false := by
    intro c written
    rcases List.mem_map.1 (mem_of_mem_squeeze (mem_of_mem_trimBy written)) with ⟨d, -, rfl⟩
    exact isUpper_smallOrUnderscore d
  rw [ofField_eq_madeFrom] at h
  rcases madeFrom_cases "field" (smallWords name) with ⟨-, same⟩ | ⟨-, same⟩ | ⟨-, same⟩ | same
  · rw [same] at h
    revert c
    decide
  · rw [same, String.toList_ofList] at h
    rcases List.mem_cons.1 h with rfl | h
    · rfl
    · exact small c h
  · rw [same, String.toList_append, String.toList_ofList] at h
    rcases List.mem_append.1 h with h | h
    · exact small c h
    · rw [List.mem_singleton.1 h]
      rfl
  · rw [same, String.toList_ofList] at h
    exact small c h

/-! ## Modules -/

/-- The modules that generated code relies on, with the bitmap types whose constants lie in a module
of that name. -/
def moduleSpellings : List (String × List String) := [
  ("tlv", ["Tlv", "TLV"]),
  ("anyhow", ["Anyhow", "ANYHOW"]),
  ("serde", ["Serde", "SERDE"]),
  ("serde_json", ["SerdeJson", "SerdeJSON", "SERDEJson", "SERDEJSON"])
]

/-- Of the ways to write the letters of such a module, those listed are the ones that lead to it. -/
theorem smallWords_variant_iff : ∀ row ∈ moduleSpellings,
    ∀ cs ∈ caseVariants (bare row.1.toList), cs.head?.any Char.isLower = false →
      (separated smallOrUnderscore (snakeChars cs) = row.1.toList ↔
        cs ∈ row.2.map String.toList) := by
  decide +kernel

theorem plain_of_spelling : ∀ row ∈ moduleSpellings, Plain "field" row.1 ∧
    ∀ n ∈ row.2, Plain "Unknown" n ∧ ofField n = row.1 := by
  decide +kernel

/-- The words that are made up are none of these modules. -/
theorem bare_ne_of_madeUp : ∀ row ∈ moduleSpellings,
    bare "Unknown".toList ≠ bare row.1.toList ∧
      (∀ c ∈ bare row.1.toList, c.isDigit = false) ∧
        ∀ n ∈ reservedWords, bare n.toList ≠ bare row.1.toList := by
  decide +kernel

theorem bare_of_alphanum {cs : List Char} (alphanum : ∀ c ∈ cs, c.isAlphanum = true) :
    bare cs = cs.map Char.toLower := by
  rw [bare, List.filter_eq_self.2]
  intro c listed
  rw [decide_eq_true_iff]
  rintro rfl
  have impossible := alphanum '_' listed
  cases impossible

theorem ofWords_eq_of_bare_eq {cs : List Char} {row : String × List String}
    (listed : row ∈ moduleSpellings) (letters : bare (ofWords cs).toList = bare row.1.toList) :
    ofWords cs = String.ofList (joinedWords cs) := by
  rcases bare_ne_of_madeUp row listed with ⟨unknown, noDigit, noReserved⟩
  rw [ofWords_eq_madeFrom] at letters ⊢
  -- A name that is made up for other words has other letters than the row.
  rcases madeFrom_cases "Unknown" (joinedWords cs) with
    ⟨-, same⟩ | ⟨digit, same⟩ | ⟨reserved, same⟩ | same
  · rw [same] at letters
    exact absurd letters unknown
  · rw [same, String.toList_ofList, bare_underscore, bare_of_alphanum isAlphanum_joinedWords]
      at letters
    rw [← letters] at noDigit
    cases chars : joinedWords cs with
    | nil =>
        rw [chars] at digit
        cases digit
    | cons d rest =>
        rw [chars] at digit noDigit
        have kept : d.isDigit = true → d.toLower.isDigit = true :=
          forall_isWordPart (P := fun c => c.isDigit = true → c.toLower.isDigit = true)
            (by decide) (isWordPart_of_isDigit digit)
        have impossible := noDigit _ (List.mem_map.2 ⟨d, .head _, rfl⟩)
        rw [kept digit] at impossible
        cases impossible
  · rw [same, String.toList_append, bare_append] at letters
    have nothing : bare "_".toList = [] := rfl
    rw [nothing, List.append_nil] at letters
    exact absurd letters (noReserved _ reserved)
  · exact same

/-- The module of a bitmap is one of these iff its words are among the listed ones. -/
theorem ofField_ofWords_iff {cs : List Char} {row : String × List String}
    (listed : row ∈ moduleSpellings) :
    ofField (ofWords cs) = row.1 ↔ String.ofList (joinedWords cs) ∈ row.2 := by
  rcases plain_of_spelling row listed with ⟨plain, spellings⟩
  constructor
  · intro made
    have words : smallWords (ofWords cs) = row.1.toList := (madeFrom_eq_iff plain).1 made
    have letters : bare (ofWords cs).toList = bare row.1.toList := by
      rw [← bare_smallWords (isWord_ofWords cs).parts, words]
    have same := ofWords_eq_of_bare_eq listed letters
    rw [same, String.toList_ofList] at letters
    have variant : joinedWords cs ∈ caseVariants (bare row.1.toList) := by
      rw [← letters, bare_of_alphanum isAlphanum_joinedWords]
      exact mem_caseVariants isWordPart_joinedWords
    rw [same, smallWords, String.toList_ofList] at words
    have found := (smallWords_variant_iff row listed _ variant (head_joinedWords cs)).1 words
    rcases List.mem_map.1 found with ⟨n, spelling, chars⟩
    rwa [← chars, String.ofList_toList]
  · intro spelling
    rcases spellings _ spelling with ⟨plainType, made⟩
    have type : ofWords cs = String.ofList (joinedWords cs) := by
      rw [ofWords_eq_madeFrom, madeFrom_eq_iff plainType, String.toList_ofList]
    rw [type, made]

end Identifier
end Name

open Name Identifier

/-! ## Items -/

/-- The types that generated code uses without a path before them. -/
def pathTypes : List String := ["Option", "Vec", "String"]

/-- The names that generated code uses without a path before them: types, and modules at the front of
a path. -/
def pathNames : List String := pathTypes ++ moduleSpellings.map Prod.fst

namespace Item

/-- The words of an item that gives its type no further ending. -/
def typeWords : Item → List Char
  | enum e => Identifier.typeWords e.name enumSuffix e.keepSuffix
  | bitmap b => Identifier.typeWords b.name bitmapSuffix b.keepSuffix
  | struct d => Identifier.typeWords d.name structSuffix false
  | response p => Identifier.typeWords (pascal p.name) "" true
  | command _ | attr _ | event _ => []

/-- The item is named after one of the types that generated code relies on, or it is a bitmap that is
named after one of the modules. -/
def Spells (i : Item) (n : String) : Prop :=
  (n ∈ pathTypes ∧ i.typeWords = n.toList) ∨
    ∃ row ∈ moduleSpellings, row.1 = n ∧ i.kind = .bitmap ∧ String.ofList i.typeWords ∈ row.2

variable {i : Item} {n : String}

theorem spells_iff_of_no_bitmap (other : i.kind ≠ .bitmap) :
    i.Spells n ↔ n ∈ pathTypes ∧ i.typeWords = n.toList := by
  refine or_iff_left ?_
  rintro ⟨-, -, -, bitmap, -⟩
  exact other bitmap

theorem not_spells (other : i.kind ≠ .bitmap) (noWords : i.typeWords = []) : ¬ i.Spells n := by
  rw [spells_iff_of_no_bitmap other, noWords]
  rintro ⟨type, empty⟩
  have nonempty : ∀ n ∈ pathTypes, [] ≠ n.toList := by
    decide
  exact nonempty n type empty

end Item

theorem plain_of_mem_pathTypes : ∀ n ∈ pathTypes, Plain "Unknown" n := by
  decide

/-- A type is one of the names iff its words are those of one of the types. -/
theorem ofType_eq_iff {n name suffix : String} {keepSuffix : Bool} (path : n ∈ pathNames) :
    ofType name suffix keepSuffix = n ↔
      n ∈ pathTypes ∧ Identifier.typeWords name suffix keepSuffix = n.toList := by
  rcases List.mem_append.1 path with type | small
  · rw [and_iff_right type]
    exact madeFrom_eq_iff (plain_of_mem_pathTypes n type)
  · -- The modules begin with small letters.
    have modules : ∀ n ∈ moduleSpellings.map Prod.fst,
        n.toList.head?.any Char.isLower = true ∧ n ∉ pathTypes := by
      decide
    rcases modules n small with ⟨head, other⟩
    refine iff_of_false ?_ fun both => other both.1
    rintro rfl
    rw [ofType, head_ofWords] at head
    cases head

theorem ofType_append_ne {n name suffix ending : String} {keepSuffix : Bool} (path : n ∈ pathNames)
    (other : ∀ n ∈ pathNames, ¬ ending.toList <:+ n.toList) :
    ofType name suffix keepSuffix ++ ending ≠ n := by
  rintro rfl
  apply other _ path
  rw [String.toList_append]
  exact List.suffix_append _ _

/-- The module of a bitmap is one of the names iff its words are listed for one of the modules. -/
theorem moduleName_eq_iff {b : BitmapDecl} {n : String} (path : n ∈ pathNames) :
    b.moduleName = n ↔ ∃ row ∈ moduleSpellings, row.1 = n ∧
      String.ofList (Item.typeWords (.bitmap b)) ∈ row.2 := by
  rcases List.mem_append.1 path with type | small
  · -- The names of types have capitals, and those of modules have none.
    have capital : ∀ n ∈ pathTypes, n.toList.any Char.isUpper = true ∧
        ∀ row ∈ moduleSpellings, row.1 ≠ n := by
      decide
    rcases capital n type with ⟨some, other⟩
    rcases List.any_eq_true.1 some with ⟨c, inside, upper⟩
    refine iff_of_false ?_ fun ⟨row, listed, same, _⟩ => other row listed same
    rintro rfl
    rw [isUpper_of_mem_ofField inside] at upper
    cases upper
  · rcases List.mem_map.1 small with ⟨row, listed, rfl⟩
    constructor
    · intro same
      exact ⟨row, listed, rfl, (ofField_ofWords_iff listed).1 same⟩
    · rintro ⟨other, listed, same, spelling⟩
      rw [← same]
      exact (ofField_ofWords_iff listed).2 spelling

namespace Resolved

/-- An emitted item defines one of the names that generated code relies on iff its own name spells
it: the name of an enum, bitmap, struct or response is that of a type, or the name of a bitmap is one
of those that lead to a module.  Types of parameters and of events never do. -/
theorem mem_typeNames_iff_spells {r : Resolved} {s : Settings} {i : Item} {d : Definition r}
    (emitted : (i, .emitted d) ∈ r.outcomes s) {n : String} (path : n ∈ pathNames) :
    n ∈ d.typeNames ↔ i.Spells n := by
  have made : r.definition? s i = some d := by
    rcases outcome_of_mem emitted with ⟨before, same⟩
    exact (outcome_eq_emitted_iff.1 same.symm).1
  rw [(names_of_definition? made).1]
  cases i with
  | enum e =>
      rw [definedTypes, List.mem_singleton, eq_comm,
        Item.spells_iff_of_no_bitmap (i := .enum e) (by simp [Item.kind])]
      exact ofType_eq_iff path
  | bitmap b =>
      rw [definedTypes, List.mem_pair, eq_comm (b := b.typeName), eq_comm (b := b.moduleName),
        moduleName_eq_iff path]
      refine or_congr (ofType_eq_iff path) ?_
      simp only [Item.kind, true_and]
  | struct t =>
      rw [definedTypes, List.mem_singleton, eq_comm,
        Item.spells_iff_of_no_bitmap (i := .struct t) (by simp [Item.kind])]
      exact ofType_eq_iff path
  | command c =>
      refine iff_of_false ?_ (Item.not_spells (by simp [Item.kind]) rfl)
      intro defined
      rw [definedTypes] at defined
      split at defined
      · have same : c.paramsType = n := (List.mem_singleton.1 defined).symm
        exact ofType_append_ne path (by decide) same
      · cases defined
  | attr a =>
      exact iff_of_false List.not_mem_nil (Item.not_spells (by simp [Item.kind]) rfl)
  | response p =>
      rw [definedTypes, List.mem_singleton, eq_comm,
        Item.spells_iff_of_no_bitmap (i := .response p) (by simp [Item.kind])]
      exact ofType_eq_iff path
  | event e =>
      refine iff_of_false ?_ (Item.not_spells (by simp [Item.kind]) rfl)
      intro defined
      have same : e.typeName = n := (List.mem_singleton.1 defined).symm
      exact ofType_append_ne path (by decide) same

/-- The struct whose type is called like the type of optional values. -/
def optionStruct : StructDecl :=
  { name := "OptionStruct", fields := [{ id := 0, name := "Level", typeName := "uint8" }] }

/-- A bitmap and a struct that are named after a module and a type of generated code. -/
def thermo : Resolved :=
  Cluster.resolve
    { id := 0x0201
      idText := "0x0201"
      name := "Thermo"
      bitmaps := .ofList [BitmapDecl.addFlag { name := "TLVBitmap" } 0 "Heat" ""]
      structs := .ofList [optionStruct] }

theorem emitted_optionStruct : ∃ d, (.struct optionStruct, .emitted d) ∈ thermo.outcomes {} :=
  emitted_of_isSome (by decide +kernel)

theorem mem_typeNames_iff_spells_thermo :
    ∃ d : Definition thermo, (.struct optionStruct, .emitted d) ∈ thermo.outcomes {} ∧
      "Option" ∈ pathNames ∧ "Option" ∈ d.typeNames ∧ "tlv" ∈ pathNames ∧ "tlv" ∉ d.typeNames := by
  rcases emitted_optionStruct with ⟨d, emitted⟩
  have option : "Option" ∈ pathNames := by
    decide
  have tlv : "tlv" ∈ pathNames := by
    decide
  have spells : Item.Spells (.struct optionStruct) "Option" :=
    .inl ⟨by decide, by decide +kernel⟩
  have other : ¬ Item.Spells (.struct optionStruct) "tlv" := by
    rw [Item.spells_iff_of_no_bitmap (i := .struct optionStruct) (by simp [Item.kind])]
    decide
  refine ⟨d, emitted, option, ?_, tlv, ?_⟩
  · exact (mem_typeNames_iff_spells emitted option).2 spells
  · exact fun defined => other ((mem_typeNames_iff_spells emitted tlv).1 defined)

/-- Nothing is left out: the module of the flags has the name of the module of the wire format, and
the field of the struct has the type that the struct itself is called. -/
theorem captures_thermo :
    thermo.skipped {} = [] ∧
      (thermo.outcomes {}).filterMap (fun p => p.2.definition?.map Definition.typeNames) =
        [["TLV", "tlv"], ["Option"]] ∧
      (thermo.structType optionStruct).text =
        "#[derive(Debug, Clone, Default, serde::Serialize)]\n" ++
          "pub struct Option \x7b\n    pub level: Option<u8>,\n\x7d\n" ∧
      ¬ ∀ i d, (i, .emitted d) ∈ thermo.outcomes {} → ∀ n ∈ pathNames, n ∉ d.typeNames := by
  have names : (thermo.outcomes {}).filterMap (fun p => p.2.definition?.map Definition.typeNames) =
      [["TLV", "tlv"], ["Option"]] := by
    decide +kernel
  refine ⟨by decide +kernel, names, by decide +kernel, ?_⟩
  intro free
  have listed : ["Option"] ∈
      (thermo.outcomes {}).filterMap (fun p => p.2.definition?.map Definition.typeNames) := by
    rw [names]
    exact .tail _ (.head _)
  rcases List.mem_filterMap.1 listed with ⟨⟨i, o⟩, found, mapped⟩
  rcases Option.map_eq_some_iff.1 mapped with ⟨d, made, typeNames⟩
  cases definition?_eq_some_iff.1 made
  have defined : "Option" ∈ d.typeNames := by
    rw [typeNames]
    exact .head _
  exact free i d found "Option" (by decide) defined

end Resolved
end ClusterCodec

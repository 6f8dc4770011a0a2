import ClusterCodec.Name.Casing

/-!
# Identifier — names as identifiers of the generated source

- `reservedWords`: the words of the target language that are no identifiers.
- `ofField`, `ofType`, `ofVariant`, `ofConstant`, `ofModule`: one identifier for each role.
- `suffix_ofWords`: a capitalised word at the end of a name ends its identifier.
- `ofModule_notMem_reservedWords`: a module is not named by a reserved word, `mod` among them.

Every identifier consists of ASCII letters, digits and underscores, does not start with a digit and
is not reserved.
-/

namespace ClusterCodec
namespace Name

open Text

/-- The words that cannot stand as bare identifiers. -/
def reservedWords : List String := [
  "as", "break", "const", "continue", "crate", "else", "enum", "extern", "false", "fn", "for",
  "if", "impl", "in", "let", "loop", "match", "mod", "move", "mut", "pub", "ref", "return",
  "self", "Self", "static", "struct", "super", "trait", "true", "type", "unsafe", "use", "where",
  "while", "async", "await", "dyn", "abstract", "become", "box", "do", "final", "macro",
  "override", "priv", "typeof", "unsized", "virtual", "yield", "try", "union", "gen"
]

/-- Sets a reserved word apart by an underscore at its end. -/
def escapeReserved (name : String) : String :=
  if name ∈ reservedWords then name ++ "_" else name

theorem escapeReserved_notMem (name : String) : escapeReserved name ∉ reservedWords := by
  have noUnderscore : ∀ word ∈ reservedWords, word.toList.getLast? ≠ some '_' := by decide
  unfold escapeReserved
  split
  · intro again
    exact noUnderscore _ again (by simp)
  · next free => exact free

namespace Identifier

def startsWithDigit (cs : List Char) : Bool :=
  cs.head?.any Char.isDigit

/-- Maps each character, then keeps single underscores inside the text only. -/
def separated (f : Char → Char) (cs : List Char) : List Char :=
  trimUnderscores (squeeze (cs.map f))

def smallOrUnderscore (c : Char) : Char :=
  if c.isLower || c.isDigit then c else '_'

def capitalOrUnderscore (c : Char) : Char :=
  if c.isAlphanum then c.toUpper else '_'

def smallWords (name : String) : List Char :=
  separated smallOrUnderscore (snakeChars name.toList)

/-- A field, a parameter, or the end of a function's name. -/
def ofField (name : String) : String :=
  let ident := smallWords name
  if ident.isEmpty then "field"
  else if startsWithDigit ident then String.ofList ('_' :: ident)
  else escapeReserved (String.ofList ident)

def upperFirst : List Char → List Char
  | [] => []
  | c :: cs => c.toUpper :: cs

/-- The ASCII words of a name, joined with capital first letters. -/
def joinedWords (cs : List Char) : List Char :=
  (runsBetween (fun c => !c.isAlphanum) cs).flatMap upperFirst

def ofWords (cs : List Char) : String :=
  let ident := joinedWords cs
  if ident.isEmpty then "Unknown"
  else if startsWithDigit ident then String.ofList ('_' :: ident)
  else escapeReserved (String.ofList ident)

/-- Drops a suffix unless nothing would remain. -/
def withoutSuffix (suffix cs : List Char) : List Char :=
  if suffix.isSuffixOf cs && suffix.length < cs.length then cs.take (cs.length - suffix.length)
  else cs

/-- An enum, bitmap or struct type. The category suffix goes unless `keepSuffix` holds or nothing
would remain. -/
def ofType (name suffix : String) (keepSuffix : Bool) : String :=
  ofWords (if keepSuffix then name.toList else withoutSuffix suffix.toList name.toList)

/-- A variant of an enum. -/
def ofVariant (name : String) : String :=
  ofWords name.toList

/-- A constant of a bitmap. -/
def ofConstant (name : String) : String :=
  let ident := separated capitalOrUnderscore (snakeChars name.toList)
  if ident.isEmpty then "UNKNOWN"
  else if startsWithDigit ident then "BIT_" ++ String.ofList ident
  else String.ofList ident

/-- A module, named after the stem of its source file. -/
def ofModule (stem : String) : String :=
  let ident := smallWords stem
  if ident.isEmpty then "cluster"
  else if ident.head?.any Char.isLower then escapeReserved (String.ofList ident)
  else "cluster_" ++ String.ofList ident

/-! ## Words at the end -/

theorem suffix_upperFirst_append {run word : List Char} (capital : upperFirst word = word) :
    word <:+ upperFirst (run ++ word) := by
  cases run with
  | nil => exact ⟨[], capital.symm⟩
  | cons c cs => exact List.suffix_append (c.toUpper :: cs) word

/-- Joining words keeps a capitalised word at the end. -/
theorem suffix_joinedWords {word cs : List Char} (nonempty : word ≠ [])
    (alphanum : ∀ c ∈ word, c.isAlphanum = true) (capital : upperFirst word = word)
    (h : word <:+ cs) : word <:+ joinedWords cs := by
  rcases h with ⟨front, rfl⟩
  have inWord : ∀ c ∈ word, (!c.isAlphanum) = false := fun c hc => by simp [alphanum c hc]
  rcases exists_runsBetween_append nonempty inWord front with ⟨runs, run, split⟩
  rw [joinedWords, split, List.flatMap_append, List.flatMap_singleton]
  exact (suffix_upperFirst_append capital).trans (List.suffix_append _ _)

theorem suffix_ofWords {word cs : List Char} (nonempty : word ≠ [])
    (alphanum : ∀ c ∈ word, c.isAlphanum = true) (capital : upperFirst word = word)
    (free : ∀ reserved ∈ reservedWords, ¬ word <:+ reserved.toList)
    (h : word <:+ cs) : word <:+ (ofWords cs).toList := by
  have joined : word <:+ joinedWords cs := suffix_joinedWords nonempty alphanum capital h
  unfold ofWords
  simp only []
  split
  · next empty =>
    rw [List.isEmpty_iff.1 empty] at joined
    exact (nonempty (List.suffix_nil.1 joined)).elim
  · split
    · rw [String.toList_ofList]
      exact joined.trans (List.suffix_cons _ _)
    · have bare : String.ofList (joinedWords cs) ∉ reservedWords := by
        intro reserved
        exact free _ reserved (by rwa [String.toList_ofList])
      rw [escapeReserved, if_neg bare, String.toList_ofList]
      exact joined

/-! ## Modules -/

theorem ofModule_notMem_reservedWords (stem : String) : ofModule stem ∉ reservedWords := by
  have otherwise : ∀ word ∈ reservedWords, ¬ "cluster".toList <+: word.toList := by decide
  unfold ofModule
  simp only []
  split
  · exact fun reserved => otherwise _ reserved List.prefix_rfl
  · split
    · exact escapeReserved_notMem _
    · intro reserved
      refine otherwise _ reserved ?_
      rw [String.toList_append]
      exact List.IsPrefix.trans ⟨['_'], by decide⟩ (List.prefix_append _ _)

end Identifier
end Name
end ClusterCodec

import ClusterCodec.Module.Source
import ClusterCodec.Proofs.ModulePieces

/-!
# CodeLines — the lines of a text that are no documentation

- `codeLines`: the lines that do not start with three slashes.
- `occursIn_append_of_notMem`: what has no separator in it occurs on one side of it.
- `SameCode`: texts of whole lines with the same code, in which the same names are found.
- `SameCode.append`, `SameCode.docLine`: such texts may be joined, and a documentation line may be
  replaced by another one.
-/

namespace ClusterCodec
namespace Text

/-! ## Lines -/

/-- The line starts with three slashes, after spaces. -/
def isDocLine (line : List Char) : Bool :=
  ['/', '/', '/'].isPrefixOf (line.dropWhile (· == ' '))

/-- The lines that are no documentation, each with its line break. -/
def codeLines (text : String) : List (List Char) :=
  (lines text.toList).filter (!isDocLine ·)

/-- The text is empty or ends with a line break. -/
def WholeLines (text : String) : Prop :=
  text = "" ∨ ∃ front, text = front ++ "\n"

theorem WholeLines.append {a b : String} (ha : WholeLines a) (hb : WholeLines b) :
    WholeLines (a ++ b) := by
  rcases hb with rfl | ⟨front, rfl⟩
  · rwa [String.append_empty]
  · exact .inr ⟨a ++ front, String.append_assoc.symm⟩

theorem WholeLines.join {texts : List String} (whole : ∀ text ∈ texts, WholeLines text) :
    WholeLines (String.join texts) := by
  induction texts with
  | nil => exact .inl rfl
  | cons text texts ih =>
      rw [String.join_cons]
      exact (whole text (.head _)).append (ih fun other listed => whole other (.tail _ listed))

theorem lines_append {front : List Char} (ends : front = [] ∨ front.getLast? = some '\n')
    (back : List Char) : lines (front ++ back) = lines front ++ lines back := by
  fun_induction lines front with
  | case1 front none empty =>
      rw [List.isEmpty_iff.1 empty]
      rfl
  | case2 front none nonempty =>
      rcases ends with rfl | last
      · exact absurd rfl nonempty
      · have inLine := List.dropWhile_eq_nil_iff.1 none '\n' (List.mem_of_getLast? last)
        simp at inLine
  | case3 front lineBreak rest found ih =>
      rcases eq_append_break found with ⟨isBreak, split⟩
      have unbroken : '\n' ∉ front.takeWhile (· != '\n') := by
        intro inside
        have := List.mem_takeWhile_imp inside
        simp at this
      -- The lines behind the first one are whole again.
      have endsRest : rest = [] ∨ rest.getLast? = some '\n' := by
        rcases ends with rfl | last
        · cases found
        · cases rest with
          | nil => exact .inl rfl
          | cons c cs =>
              rw [split] at last
              right
              simpa using last
      rw [isBreak, List.cons_append, ← ih endsRest, ← lines_append_break unbroken]
      conv => lhs; rw [split]
      simp

theorem WholeLines.ends {text : String} (whole : WholeLines text) :
    text.toList = [] ∨ text.toList.getLast? = some '\n' := by
  rcases whole with rfl | ⟨front, rfl⟩
  · exact .inl rfl
  · right
    simp

theorem codeLines_append {front : String} (whole : WholeLines front) (back : String) :
    codeLines (front ++ back) = codeLines front ++ codeLines back := by
  rw [codeLines, String.toList_append, lines_append whole.ends, List.filter_append]
  rfl

theorem wholeLines_docLine (text : String) : WholeLines (docLine text) :=
  .inr ⟨"/// " ++ text, rfl⟩

/-- A documentation line is no code, unless its text has a line break. -/
theorem codeLines_docLine {text : String} (unbroken : '\n' ∉ text.toList) :
    codeLines (docLine text) = [] := by
  have line : (docLine text).toList = ("/// " ++ text).toList ++ '\n' :: [] := by
    rw [docLine, String.toList_append]
    rfl
  have whole : '\n' ∉ ("/// " ++ text).toList := by
    rw [String.toList_append, List.mem_append]
    rintro (mark | inText)
    · exact absurd mark (by decide)
    · exact unbroken inText
  rw [codeLines, line, lines_append_break whole, lines_nil, String.toList_append]
  rfl

/-! ## Occurrences -/

section Occurrences

variable {target : List Char} {separator : Char}

theorem isPrefixOf_append_of_notMem (absent : separator ∉ target) (front back : List Char) :
    target.isPrefixOf (front ++ separator :: back) = target.isPrefixOf front := by
  induction target generalizing front with
  | nil => simp
  | cons c target ih =>
      have rest := ih fun inside => absent (List.mem_cons_of_mem _ inside)
      cases front with
      | nil =>
          have other : (c == separator) = false :=
            beq_false_of_ne fun same => absent (same ▸ List.mem_cons_self)
          rw [List.nil_append, List.isPrefixOf_cons_cons, other, Bool.false_and]
          rfl
      | cons d front =>
          rw [List.cons_append, List.isPrefixOf_cons_cons, rest, List.isPrefixOf_cons_cons]

/-- What has no separator in it occurs on one side of it. -/
theorem occursIn_append_of_notMem (absent : separator ∉ target) (front back : List Char) :
    occursIn target (front ++ separator :: back) =
      (occursIn target front || occursIn target back) := by
  induction front with
  | nil =>
      have first := isPrefixOf_append_of_notMem absent [] back
      rw [List.nil_append] at first
      change (target.isPrefixOf (separator :: back) || occursIn target back) = _
      rw [first]
      cases target <;> rfl
  | cons c front ih =>
      have first := isPrefixOf_append_of_notMem absent (c :: front) back
      rw [List.cons_append] at first
      change (target.isPrefixOf (c :: (front ++ separator :: back)) ||
        occursIn target (front ++ separator :: back)) = _
      rw [first, ih, occursIn, Bool.or_assoc]

theorem occursIn_nil (nonempty : target ≠ []) : occursIn target [] = false := by
  cases target with
  | nil => exact absurd rfl nonempty
  | cons c target => rfl

/-- What has no line break in it occurs in one of the lines. -/
theorem occursIn_append_of_wholeLines (absent : '\n' ∉ target) (nonempty : target ≠ [])
    {front : String} (whole : WholeLines front) (back : String) :
    occursIn target (front ++ back).toList =
      (occursIn target front.toList || occursIn target back.toList) := by
  rcases whole with rfl | ⟨front, rfl⟩
  · rw [String.empty_append, String.toList_empty, occursIn_nil nonempty, Bool.false_or]
  · have line (rest : List Char) :
        front.toList ++ "\n".toList ++ rest = front.toList ++ '\n' :: rest := by simp
    have alone := occursIn_append_of_notMem absent front.toList []
    rw [occursIn_nil nonempty, Bool.or_false] at alone
    rw [String.toList_append, String.toList_append, line, occursIn_append_of_notMem absent, ← alone]
    rfl

end Occurrences

/-! ## Texts with the same code -/

/-- The name of a helper in quotes. -/
def quotedName (helper : HexHelper) : List Char :=
  ("\"" ++ helper.text ++ "\"").toList

/-- A text that may stand in a documentation line: it has no line break and names no helper in
quotes. -/
structure Harmless (text : String) : Prop where
  unbroken : '\n' ∉ text.toList
  unquoted : ∀ helper, occursIn (quotedName helper) text.toList = false

/-- The character is not part of a quoted name. -/
def Separates (c : Char) : Prop :=
  ∀ helper, c ∉ quotedName helper

/-- Texts of whole lines with the same code, in which the same helpers are named in quotes. -/
structure SameCode (a b : String) : Prop where
  whole : WholeLines a ∧ WholeLines b
  code : codeLines a = codeLines b
  quoted : ∀ helper, occursIn (quotedName helper) a.toList = occursIn (quotedName helper) b.toList

namespace SameCode

variable {a b : String}

theorem refl {text : String} (whole : WholeLines text) : SameCode text text :=
  ⟨⟨whole, whole⟩, rfl, fun _ => rfl⟩

theorem symm (same : SameCode a b) : SameCode b a :=
  ⟨same.whole.symm, same.code.symm, fun helper => (same.quoted helper).symm⟩

theorem trans {c : String} (first : SameCode a b) (second : SameCode b c) : SameCode a c :=
  ⟨⟨first.whole.1, second.whole.2⟩, first.code.trans second.code,
    fun helper => (first.quoted helper).trans (second.quoted helper)⟩

theorem break_notMem_quotedName (helper : HexHelper) : '\n' ∉ quotedName helper := by
  cases helper <;> decide

theorem quotedName_ne_nil (helper : HexHelper) : quotedName helper ≠ [] := by
  cases helper <;> decide

theorem append {a' b' : String} (first : SameCode a b) (second : SameCode a' b') :
    SameCode (a ++ a') (b ++ b') := by
  refine ⟨⟨first.whole.1.append second.whole.1, first.whole.2.append second.whole.2⟩, ?_, ?_⟩
  · rw [codeLines_append first.whole.1, codeLines_append first.whole.2, first.code, second.code]
  · intro helper
    have absent := break_notMem_quotedName helper
    have nonempty := quotedName_ne_nil helper
    rw [occursIn_append_of_wholeLines absent nonempty first.whole.1,
      occursIn_append_of_wholeLines absent nonempty first.whole.2, first.quoted, second.quoted]

/-- In a documentation line one harmless text is as good as another. -/
theorem docLine {front back x y : String} {left right : Char}
    (hfront : ∃ before, front.toList = before ++ [left])
    (hback : ∃ after, back.toList = right :: after) (sides : Separates left ∧ Separates right)
    (unbroken : '\n' ∉ front.toList ∧ '\n' ∉ back.toList) (hx : Harmless x) (hy : Harmless y) :
    SameCode (docLine (front ++ x ++ back)) (docLine (front ++ y ++ back)) := by
  rcases hfront with ⟨before, hfront⟩
  rcases hback with ⟨after, hback⟩
  have code {z : String} (hz : Harmless z) :
      codeLines (ClusterCodec.docLine (front ++ z ++ back)) = [] := by
    refine codeLines_docLine ?_
    simp only [String.toList_append, List.mem_append, not_or]
    exact ⟨⟨unbroken.1, hz.unbroken⟩, unbroken.2⟩
  -- The name of a helper does not reach over a separator, so it stands beside the text or nowhere.
  have quoted {z : String} (hz : Harmless z) (helper : HexHelper) :
      occursIn (quotedName helper) (ClusterCodec.docLine (front ++ z ++ back)).toList =
        (occursIn (quotedName helper) ("/// ".toList ++ before) ||
          occursIn (quotedName helper) (after ++ ['\n'])) := by
    have text : (ClusterCodec.docLine (front ++ z ++ back)).toList =
        ("/// ".toList ++ before) ++ left :: (z.toList ++ right :: (after ++ ['\n'])) := by
      simp [ClusterCodec.docLine, hfront, hback]
    rw [text, occursIn_append_of_notMem (sides.1 helper), occursIn_append_of_notMem (sides.2 helper),
      hz.unquoted, Bool.false_or]
  refine ⟨⟨wholeLines_docLine _, wholeLines_docLine _⟩, ?_, ?_⟩
  · rw [code hx, code hy]
  · intro helper
    rw [quoted hx, quoted hy]

end SameCode

/-! ## Pieces and what is made of them -/

/-- The name of the wire library in paths. -/
def wireMark : List Char := "tlv::".toList

/-- Texts with the same code that end with one line break each, and name the wire library both or
neither. -/
structure SamePiece (a b : String) : Prop extends SameCode a b where
  ends : EndsLine a ∧ EndsLine b
  wire : occursIn wireMark a.toList = occursIn wireMark b.toList

theorem wholeLines_of_endsLine {text : String} (ends : EndsLine text) : WholeLines text := by
  rcases ends with ⟨front, c, -, split⟩
  refine .inr ⟨String.ofList (front ++ [c]), String.toList_inj.1 ?_⟩
  rw [split]
  simp

theorem SamePiece.refl {text : String} (ends : EndsLine text) : SamePiece text text :=
  { SameCode.refl (wholeLines_of_endsLine ends) with ends := ⟨ends, ends⟩, wire := rfl }

theorem occursIn_wireMark_append {a : String} (whole : WholeLines a) (b : String) :
    occursIn wireMark (a ++ b).toList = (occursIn wireMark a.toList || occursIn wireMark b.toList) :=
  occursIn_append_of_wholeLines (by decide) (by decide) whole b

theorem SamePiece.append {a b a' b' : String} (first : SameCode a b)
    (wire : occursIn wireMark a.toList = occursIn wireMark b.toList) (second : SamePiece a' b') :
    SamePiece (a ++ a') (b ++ b') :=
  { first.append second.toSameCode with
    ends := ⟨second.ends.1.append a, second.ends.2.append b⟩
    wire := by
      rw [occursIn_wireMark_append first.whole.1, occursIn_wireMark_append first.whole.2, wire,
        second.wire] }

/-- Both texts are empty, or an empty line follows pieces with the same code. -/
def SameBody (a b : String) : Prop :=
  (a = "" ∧ b = "") ∨ ∃ x y, a = x ++ "\n" ∧ b = y ++ "\n" ∧ SamePiece x y

theorem wholeLines_break : WholeLines "\n" := .inr ⟨"", rfl⟩

theorem SameBody.append {a b a' b' : String} (first : SameBody a b) (second : SameBody a' b') :
    SameBody (a ++ a') (b ++ b') := by
  rcases second with ⟨rfl, rfl⟩ | ⟨x', y', rfl, rfl, same'⟩
  · rwa [String.append_empty, String.append_empty]
  · rcases first with ⟨rfl, rfl⟩ | ⟨x, y, rfl, rfl, same⟩
    · rw [String.empty_append, String.empty_append]
      exact .inr ⟨x', y', rfl, rfl, same'⟩
    · have spaced : SameCode (x ++ "\n") (y ++ "\n") :=
        same.toSameCode.append (.refl wholeLines_break)
      have wire : occursIn wireMark (x ++ "\n").toList = occursIn wireMark (y ++ "\n").toList := by
        rw [occursIn_wireMark_append same.whole.1, occursIn_wireMark_append same.whole.2, same.wire]
      refine .inr ⟨x ++ "\n" ++ x', y ++ "\n" ++ y', ?_, ?_, .append spaced wire same'⟩
      · simp only [String.append_assoc]
      · simp only [String.append_assoc]

/-- Line breaks are dropped at the end, but not the one that ends a line. -/
theorem oneBreakAtEnd_append {text : String} (ends : EndsLine text) :
    oneBreakAtEnd (text ++ "\n") = text := by
  rcases ends with ⟨front, c, notBreak, split⟩
  have reversed : (text ++ "\n").toList.reverse = '\n' :: '\n' :: c :: front.reverse := by
    simp [split]
  rw [oneBreakAtEnd, reversed, oneBreakAtFront, oneBreakAtFront_of_ne notBreak]
  exact String.toList_inj.1 (by simp [split])

end Text
end ClusterCodec

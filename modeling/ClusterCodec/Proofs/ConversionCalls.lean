import ClusterCodec.Emit.AttributeDecoder
import ClusterCodec.Proofs.CodeLines
import ClusterCodec.Proofs.EmittedWords
import Mathlib.Data.List.Infix

/-!
# ConversionCalls — the calls that convert wire integers to variants

Whatever decodes a value of an enum calls a constructor of the enum, by a name that the decoder makes
on its own.

- `Operand`, `Call`: the call as data; `EnumDecl.convert_eq` says that its text is what is emitted.
- `Text.infix_indent`, `Text.infix_block`: a piece of a line is found again in a block.
- `Decode.conversions`: the enums that an expression reads values of, at any depth.
- `EnumDecl.DecodedBy`: the texts that decode a value of an enum.
- `EnumDecl.call_infix_of_decodedBy`: each of them holds the call.
-/

namespace ClusterCodec

open Text

/-! ## Calls -/

/-- What a constructor is called with: a 64-bit expression, or a cast of one. -/
inductive Operand where
  | whole (expr : String)
  | cast (expr : String) (type : IntType)
  deriving Repr, DecidableEq

namespace Operand

def text : Operand → String
  | whole expr => expr
  | cast expr type => expr ++ " as " ++ type.text

def type : Operand → IntType
  | whole _ => .u64
  | cast _ type => type

/-- A 64-bit expression in the place of a type. -/
def of (type : IntType) (expr : String) : Operand :=
  if type = .u64 then .whole expr else .cast expr type

theorem text_of (type : IntType) (expr : String) : (of type expr).text = castTo type expr := by
  rw [of, castTo]
  split <;> rfl

theorem type_of (type : IntType) (expr : String) : (of type expr).type = type := by
  rw [of]
  split
  · next word => exact word.symm
  · rfl

end Operand

/-- The call of a constructor. -/
structure Call where
  typeName : String
  /-- The argument type that the constructor is named for. -/
  argument : IntType
  operand : Operand
  deriving Repr, DecidableEq

def Call.text (c : Call) : String :=
  c.typeName ++ "::" ++ EnumType.constructorName c.argument ++ "(" ++ c.operand.text ++ ")"

/-- The call that converts a 64-bit expression. -/
def EnumDecl.call (e : EnumDecl) (expr : String) : Call :=
  ⟨e.typeName, e.repr, .of e.repr expr⟩

theorem EnumDecl.convert_eq (e : EnumDecl) (expr : String) :
    e.convert expr = (e.call expr).text := by
  rw [convert, Call.text, call, Operand.text_of]

/-! ## Pieces of a text -/

namespace Text

/-- What has no line break in it stands on one line. -/
theorem exists_line_of_infix {part cs : List Char} (unbroken : '\n' ∉ part) (nonempty : part ≠ [])
    (inside : part <:+: cs) : ∃ line ∈ lines cs, part <:+: line := by
  fun_induction lines cs with
  | case1 cs none empty =>
      rw [List.isEmpty_iff.1 empty, List.infix_nil] at inside
      exact absurd inside nonempty
  | case2 cs none some =>
      exact ⟨cs, List.mem_singleton_self cs, inside⟩
  | case3 cs lineBreak rest found ih =>
      have split := (eq_append_break found).2
      rw [split, ← occursIn_iff, occursIn_append_of_notMem unbroken, Bool.or_eq_true,
        occursIn_iff, occursIn_iff] at inside
      rcases inside with first | later
      · exact ⟨_, List.mem_cons_self, first.trans (List.prefix_append _ _).isInfix⟩
      · rcases ih later with ⟨line, listed, inLine⟩
        exact ⟨line, List.mem_cons_of_mem _ listed, inLine⟩

section Infix

variable {part : List Char}

/-- A line that moves to the right stays whole. -/
theorem infix_indent {text : String} (unbroken : '\n' ∉ part) (nonempty : part ≠ []) (level : Nat)
    (inside : part <:+: text.toList) : part <:+: (indent level text).toList := by
  rcases exists_line_of_infix unbroken nonempty inside with ⟨line, listed, inLine⟩
  have moved : line <:+: indentLine level line := by
    rw [indentLine]
    split
    · exact List.infix_rfl
    · exact (List.suffix_append _ _).isInfix
  have joined : indentLine level line <:+: (indent level text).toList := by
    rw [indent, String.toList_ofList, List.flatMap_def]
    exact List.infix_of_mem_flatten (List.mem_map_of_mem listed)
  exact inLine.trans (moved.trans joined)

theorem infix_append_left {text : String} (back : String) (inside : part <:+: text.toList) :
    part <:+: (text ++ back).toList := by
  rw [String.toList_append]
  exact inside.trans (List.prefix_append _ _).isInfix

theorem infix_append_right {text : String} (front : String) (inside : part <:+: text.toList) :
    part <:+: (front ++ text).toList := by
  rw [String.toList_append]
  exact inside.trans (List.suffix_append _ _).isInfix

theorem infix_inBraces {text : String} (inside : part <:+: text.toList) :
    part <:+: (inBraces text).toList :=
  infix_append_left " \x7d" (infix_append_right "\x7b " inside)

theorem infix_block {body : String} (unbroken : '\n' ∉ part) (nonempty : part ≠ []) (head : String)
    (inside : part <:+: body.toList) : part <:+: (block head body).toList :=
  infix_append_left "\x7d"
    (infix_append_right (head ++ " \x7b\n") (infix_indent unbroken nonempty 1 inside))

/-- The first of two alternatives. -/
theorem infix_ifElse {yes : String} (unbroken : '\n' ∉ part) (nonempty : part ≠ [])
    (condition no : String) (inside : part <:+: yes.toList) :
    part <:+: (ifElse condition yes no).toList :=
  infix_append_left "\n" (infix_append_left _ (infix_block unbroken nonempty _ inside))

end Infix

end Text

/-! ## Expressions that hold a call -/

/-- How the integer of a wire value is at hand in an expression that converts it. -/
inductive WireInteger where
  | owned
  | borrowed
  deriving Repr, DecidableEq

def WireInteger.text : WireInteger → String
  | owned => "v"
  | borrowed => "*v"

mutual

/-- The enums that an expression reads values of, with the integer that is converted. -/
def Decode.conversions : Decode → List (EnumDecl × WireInteger)
  | .leaf (.enum e) _ _ => [(e, .owned)]
  | .leaf _ _ _ => []
  | .nested _ _ _ _ _ inits => inits.conversions
  | .list _ _ _ elements => elements.conversions

def Elements.conversions : Elements → List (EnumDecl × WireInteger)
  | .leaf (.enum e) _ => [(e, .borrowed)]
  | .leaf _ _ => []
  | .records _ _ inits => inits.conversions

def Inits.conversions : Inits → List (EnumDecl × WireInteger)
  | .nil => []
  | .cons _ value rest => value.conversions ++ rest.conversions

end

/-- The texts that decode a value of the enum: the expressions for a field, and the bodies that decode
an attribute, a response or an event. -/
inductive EnumDecl.DecodedBy (e : EnumDecl) : WireInteger → String → Prop where
  | field {x : WireInteger} {d : Decode} : (e, x) ∈ d.conversions → DecodedBy e x d.text
  | compound {x : WireInteger} {inits : Inits} (typeName : String) (strictness : Strictness) :
      (e, x) ∈ inits.conversions → DecodedBy e x (compoundBody typeName inits strictness)
  | single (strictness : Strictness) : DecodedBy e .borrowed ((Leaf.enum e).singleBody strictness)
  | list {x : WireInteger} {r : Resolved} {shape : Shape r} :
      (e, x) ∈ ((r.layout shape).elements 0).conversions → DecodedBy e x shape.listBody

namespace EnumDecl

variable {e : EnumDecl} {x : WireInteger} {text : String}

theorem break_notMem_convert (e : EnumDecl) (x : WireInteger) :
    '\n' ∉ (e.convert x.text).toList := by
  have name : '\n' ∉ e.typeName.toList := fun inside =>
    absurd ((Lexical.isWord_typeName_enum e).parts _ inside) (by decide)
  have fixed (type : IntType) : '\n' ∉ (EnumType.constructorName type).toList ∧
      '\n' ∉ (castTo type x.text).toList := by
    cases type <;> cases x <;> decide
  simp only [convert, String.toList_append, List.mem_append, not_or]
  exact ⟨⟨⟨⟨⟨name, by decide⟩, (fixed e.repr).1⟩, by decide⟩, (fixed e.repr).2⟩, by decide⟩

theorem convert_ne_nil (e : EnumDecl) (x : WireInteger) : (e.convert x.text).toList ≠ [] := by
  simp [convert]

theorem convert_infix_itself (e : EnumDecl) (x : WireInteger) :
    (e.convert x.text).toList <:+: (e.convert x.text).toList :=
  List.infix_rfl

theorem convert_infix_readText (e : EnumDecl) (item : Place) (id : UInt8) :
    (e.convert (WireInteger.owned).text).toList <:+: ((Leaf.enum e).readText item id).toList :=
  Text.infix_append_left _ (Text.infix_append_right _ (convert_infix_itself e .owned))

theorem convert_infix_element (e : EnumDecl) (element : Binder) :
    (e.convert (WireInteger.borrowed).text).toList <:+:
      (Elements.leaf (.enum e) element).text.toList := by
  have found := Text.infix_inBraces (convert_infix_itself e .borrowed)
  unfold Elements.text
  exact Text.infix_append_left _ (Text.infix_append_left _ (Text.infix_append_left _
    (Text.infix_append_right _ found)))

/-- The fields of a nested struct stand in two blocks, one inside the other. -/
theorem convert_infix_nested {inits : Inits} (decl : StructDecl) (item : Place) (id : UInt8)
    (value nestedItem : Binder) (inside : (e.convert x.text).toList <:+: inits.text.toList) :
    (e.convert x.text).toList <:+:
      (Decode.nested decl item id value nestedItem inits).text.toList := by
  have unbroken := break_notMem_convert e x
  have nonempty := convert_ne_nil e x
  have fields := Text.infix_block unbroken nonempty ("Some(" ++ decl.typeName) inside
  unfold Decode.text
  exact Text.infix_block unbroken nonempty _ (Text.infix_append_left _
    (Text.infix_block unbroken nonempty _ (Text.infix_append_left _
      (Text.infix_append_right _ fields))))

theorem convert_infix_listed {elements : Elements} (item : Place) (id : UInt8) (list : Binder)
    (inside : (e.convert x.text).toList <:+: elements.text.toList) :
    (e.convert x.text).toList <:+: (Decode.list item id list elements).text.toList := by
  have unbroken := break_notMem_convert e x
  have nonempty := convert_ne_nil e x
  have steps := Text.infix_append_left ".collect(),\n" (Text.infix_append_right ".iter()\n" inside)
  have chain := Text.infix_append_right (list.text ++ "\n")
    (Text.infix_indent unbroken nonempty 1 steps)
  unfold Decode.text
  exact Text.infix_block unbroken nonempty _ (Text.infix_append_left _
    (Text.infix_append_right _ (Text.infix_indent unbroken nonempty 1 chain)))

theorem convert_infix_records {inits : Inits} (decl : StructDecl) (element : Binder)
    (inside : (e.convert x.text).toList <:+: inits.text.toList) :
    (e.convert x.text).toList <:+: (Elements.records decl element inits).text.toList := by
  have fields := Text.infix_block (break_notMem_convert e x) (convert_ne_nil e x)
    (".map(|" ++ element.text ++ "| " ++ decl.typeName) inside
  unfold Elements.text
  exact Text.infix_append_left _ (Text.infix_append_right _ fields)

mutual

theorem convert_infix_decode :
    (d : Decode) → (e, x) ∈ d.conversions → (e.convert x.text).toList <:+: d.text.toList
  | .leaf l item id, inside => by
      rw [Decode.text]
      cases l with
      | enum other =>
          cases List.mem_singleton.1 inside
          exact convert_infix_readText e item id
      | int _ _ => cases inside
      | bool => cases inside
      | string => cases inside
      | bytes => cases inside
      | bitmap _ => cases inside
  | .nested decl item id value nestedItem inits, inside =>
      convert_infix_nested decl item id value nestedItem (convert_infix_inits inits inside)
  | .list item id list elements, inside =>
      convert_infix_listed item id list (convert_infix_elements elements inside)

theorem convert_infix_elements :
    (l : Elements) → (e, x) ∈ l.conversions → (e.convert x.text).toList <:+: l.text.toList
  | .leaf l element, inside => by
      cases l with
      | enum other =>
          cases List.mem_singleton.1 inside
          exact convert_infix_element e element
      | int _ _ => cases inside
      | bool => cases inside
      | string => cases inside
      | bytes => cases inside
      | bitmap _ => cases inside
  | .records decl element inits, inside =>
      convert_infix_records decl element (convert_infix_inits inits inside)

theorem convert_infix_inits :
    (i : Inits) → (e, x) ∈ i.conversions → (e.convert x.text).toList <:+: i.text.toList
  | .nil, inside => by
      cases inside
  | .cons ident value rest, inside => by
      rw [Inits.text]
      rcases List.mem_append.1 inside with first | later
      · exact Text.infix_append_left _ (Text.infix_append_left _
          (Text.infix_append_right _ (convert_infix_decode value first)))
      · exact Text.infix_append_right _ (convert_infix_inits rest later)

end

theorem convert_infix_of_decodedBy (decoded : e.DecodedBy x text) :
    (e.convert x.text).toList <:+: text.toList := by
  have unbroken := break_notMem_convert e x
  have nonempty := convert_ne_nil e x
  cases decoded with
  | field inside =>
      exact convert_infix_decode _ inside
  | compound typeName strictness inside =>
      have fields := Text.infix_block unbroken nonempty typeName (convert_infix_inits _ inside)
      refine Text.infix_ifElse unbroken nonempty _ _
        (Text.infix_append_left _ (Text.infix_append_right _ ?_))
      cases strictness with
      | required => exact Text.infix_append_left _ (Text.infix_append_right _ fields)
      | optional => exact Text.infix_append_left _ (Text.infix_append_right _ fields)
  | single strictness =>
      have itself := convert_infix_itself e .borrowed
      unfold Leaf.singleBody
      refine Text.infix_ifElse unbroken nonempty _ _ (Text.infix_append_left _ ?_)
      cases strictness with
      | required => exact Text.infix_append_left _ itself
      | optional => exact Text.infix_append_left _ (Text.infix_append_right _ itself)
  | list inside =>
      have steps := Text.infix_append_left ".collect())\n"
        (Text.infix_append_right ".iter()\n" (convert_infix_elements _ inside))
      exact Text.infix_ifElse unbroken nonempty _ _
        (Text.infix_append_right "Ok(list\n" (Text.infix_indent unbroken nonempty 1 steps))

/-- What decodes a value of an enum holds the call of the constructor for its integer type. -/
theorem call_infix_of_decodedBy (decoded : e.DecodedBy x text) :
    (e.call x.text).text.toList <:+: text.toList := by
  rw [← convert_eq]
  exact convert_infix_of_decodedBy decoded

end EnumDecl
end ClusterCodec

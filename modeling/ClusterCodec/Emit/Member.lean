import ClusterCodec.Emit.Shape
import ClusterCodec.Schema.FirstOfEach

/-!
# Member — the fields that the generated source keeps

- `Member`: a field with the shape of its value.
- `Resolved.members`: the fields of a list that have a shape, the first one of each identifier.
- `HexHelper`: the functions that write octet strings as hexadecimal text.
-/

namespace ClusterCodec

/-- A function of the helper module. -/
inductive HexHelper where
  /-- For an optional octet string. -/
  | bytes
  /-- For an optional list of octet strings. -/
  | bytesList
  deriving Repr, DecidableEq

namespace HexHelper

def all : List HexHelper := [bytes, bytesList]

def text : HexHelper → String
  | bytes => "serialize_opt_bytes_as_hex"
  | bytesList => "serialize_opt_vec_bytes_as_hex"

end HexHelper

/-- A field with the shape of its value, or of its elements when it is a list. -/
structure Member (r : Resolved) where
  field : Field
  shape : Shape r

namespace Member

variable {r : Resolved}

def ident (m : Member r) : String :=
  m.field.ident

/-- The type of the value in the generated source. -/
def typeText (m : Member r) : String :=
  if m.field.isList then "Vec<" ++ m.shape.typeText ++ ">" else m.shape.typeText

def hexHelper? (m : Member r) : Option HexHelper :=
  match m.shape with
  | .leaf .bytes => some (if m.field.isList then .bytesList else .bytes)
  | _ => none

end Member

namespace Resolved

variable (r : Resolved)

def member (owner : Option String) (f : Field) : Except Omission (Member r) :=
  (r.fieldShape owner f).map (⟨f, ·⟩)

/-- The fields that have a shape. Of those with one identifier the first is kept; a field without a
shape does not count. -/
def members (owner : Option String) (fields : List Field) : List (Member r) :=
  keepFirst Member.ident (fields.filterMap fun f => (r.member owner f).toOption)

variable {r}

theorem nodup_idents_members (owner : Option String) (fields : List Field) :
    ((r.members owner fields).map Member.ident).Nodup :=
  nodup_keys_keepFirst _ _

theorem fieldShape_of_mem_members {owner : Option String} {fields : List Field} {m : Member r}
    (h : m ∈ r.members owner fields) :
    m.field ∈ fields ∧ r.fieldShape owner m.field = .ok m.shape := by
  obtain ⟨f, hf, hm⟩ := List.mem_filterMap.1 ((keepFirst_sublist _ _).subset h)
  unfold member at hm
  cases hs : r.fieldShape owner f with
  | error e => simp [hs, Except.map, Except.toOption] at hm
  | ok s =>
    simp only [hs, Except.map, Except.toOption, Option.some.injEq] at hm
    subst hm
    exact ⟨hf, hs⟩

/-! ## Structs inside structs -/

theorem shape_eq_struct {owner : Option String} {t : TypeRef} {s : DeclaredStruct r}
    (h : r.shape owner t = .ok (.struct s)) :
    t = .struct s.decl.name ∧ owner.any (r.isRecursive · s.decl.name) = false := by
  unfold shape at h
  split at h
  case h_1 => simp at h
  case h_2 => simp at h
  case h_3 => simp at h
  case h_5 => simp at h
  case h_4 name =>
    split at h
    · simp at h
    · next d hd =>
      split at h
      · simp at h
      · next hr =>
        simp only [Except.ok.injEq, Shape.struct.injEq] at h
        subst h
        have hn : d.name = name := (SymbolTable.get?_eq_some hd).2
        simp only [declared]
        exact ⟨by rw [hn], by rw [hn]; simpa using hr⟩

theorem fieldShape_eq_struct {owner : Option String} {f : Field} {s : DeclaredStruct r}
    (h : r.fieldShape owner f = .ok (.struct s)) :
    f.structName? = some s.decl.name ∧ owner.any (r.isRecursive · s.decl.name) = false := by
  unfold fieldShape at h
  unfold Field.structName?
  split at h
  · simp at h
  · next entry heq =>
    obtain ⟨rfl, hr⟩ := shape_eq_struct h
    exact ⟨by rw [heq]; rfl, hr⟩
  · obtain ⟨ht, hr⟩ := shape_eq_struct h
    exact ⟨by rw [ht]; rfl, hr⟩

end Resolved
end ClusterCodec

import ClusterCodec.Emit.AttributeDecoder
import ClusterCodec.Proofs.Expansion
import Mathlib.Data.List.Forall2

/-!
# FieldAgreement — type, decoder and encoder mention the same fields

Three emitters walk over a list of fields: one declares a struct type, one initialises a struct
literal, one pushes the encoded fields.  This file reads off what each of them mentions:

- `Inits.toList`, `Pushes.toList`: the initialisers and the push statements, one by one; the texts
  are those of the entries in order.
- `Decode.item`, `Decode.tag`: what an expression reads; its text names both.
- `Inits.literals`: all struct literals that are nested in initialisers, at any depth.
- `fields_agree`: the emitters mention the same fields in the same order, with the same tags, and a
  nested literal initialises what the type of its struct declares.
-/

namespace ClusterCodec

/-! ## What an expression reads -/

namespace Decode

/-- The item that is read. -/
def item : Decode → Place
  | leaf _ item _ => item
  | nested _ item _ _ _ _ => item
  | list item _ _ _ => item

/-- The tag that is read. -/
def tag : Decode → UInt8
  | leaf _ _ id => id
  | nested _ _ id _ _ _ => id
  | list _ id _ _ => id

end Decode

theorem Leaf.exists_readText_eq (l : Leaf) (item : Place) (id : UInt8) :
    ∃ getter rest, l.readText item id =
      item.text ++ "." ++ getter ++ "(" ++ tagPath id ++ ")" ++ rest := by
  cases l with
  | int native wire =>
      exact ⟨"get_int", mapCast native, rfl⟩
  | bool =>
      exact ⟨"get_bool", "", (String.append_empty).symm⟩
  | string =>
      exact ⟨"get_string_owned", "", (String.append_empty).symm⟩
  | bytes =>
      exact ⟨"get_octet_string_owned", "", (String.append_empty).symm⟩
  | enum e =>
      refine ⟨"get_int", ".and_then(|v| " ++ e.convert "v" ++ ")", ?_⟩
      simp only [Leaf.readText, String.append_assoc]
  | bitmap b =>
      exact ⟨"get_int", mapCast b.baseType, rfl⟩

/-- The text of a match on what a getter gives begins with the call. -/
theorem exists_matchText_eq (item : Place) (id : UInt8) (arms : String) :
    ∃ rest, Text.block ("match " ++ item.text ++ ".get(" ++ tagPath id ++ ")") arms =
      "match " ++ item.text ++ "." ++ "get" ++ "(" ++ tagPath id ++ ")" ++ rest := by
  refine ⟨" \x7b\n" ++ Text.indent 1 arms ++ "\x7d", ?_⟩
  simp only [Text.block, String.append_assoc]
  rfl

/-- The text of an expression calls a getter of its item with its tag. -/
theorem Decode.exists_text_eq (d : Decode) :
    ∃ lead getter rest, d.text =
      lead ++ d.item.text ++ "." ++ getter ++ "(" ++ tagPath d.tag ++ ")" ++ rest := by
  cases d with
  | leaf l item id =>
      rcases l.exists_readText_eq item id with ⟨getter, rest, h⟩
      refine ⟨"", getter, rest, ?_⟩
      rw [Decode.text, h, String.empty_append]
      rfl
  | nested decl item id value nestedItem inits =>
      rw [Decode.text]
      rcases exists_matchText_eq item id _ with ⟨rest, h⟩
      exact ⟨"match ", "get", rest, h⟩
  | list item id list elements =>
      rw [Decode.text]
      rcases exists_matchText_eq item id _ with ⟨rest, h⟩
      exact ⟨"match ", "get", rest, h⟩

/-! ## Initialisers and push statements one by one -/

def Inits.toList : Inits → List (String × Decode)
  | nil => []
  | cons ident value rest => (ident, value) :: rest.toList

theorem Inits.text_eq_join (inits : Inits) :
    inits.text = String.join (inits.toList.map fun p => p.1 ++ ": " ++ p.2.text ++ ",\n") := by
  match inits with
  | .nil => rfl
  | .cons ident value rest =>
      simp [Inits.text, Inits.toList, Inits.text_eq_join rest]

/-- A statement that puts a present field of `owner` at the end of `vector`. -/
structure Push where
  owner : Place
  ident : String
  present : Binder
  vector : Place
  id : UInt8
  encoded : Encode

def Push.text (p : Push) : String :=
  Text.block ("if let Some(" ++ p.present.text ++ ") = &" ++ p.owner.text ++ "." ++ p.ident)
      (p.vector.text ++ ".push((" ++ Text.Numeral.decimal p.id.toNat ++ ", " ++ p.encoded.text ++
        ").into());\n") ++
    "\n"

def Pushes.toList : Pushes → List Push
  | nil => []
  | cons owner ident present vector id encoded rest =>
    ⟨owner, ident, present, vector, id, encoded⟩ :: rest.toList

theorem Pushes.text_eq_join (pushes : Pushes) :
    pushes.text = String.join (pushes.toList.map Push.text) := by
  match pushes with
  | .nil => rfl
  | .cons owner ident present vector id encoded rest =>
      simp [Pushes.text, Pushes.toList, Push.text, Pushes.text_eq_join rest]

/-! ## Lines -/

/-- A line that declares the field. -/
def DeclaresField (f : Field) (line : String) : Prop :=
  ∃ serde type, line = serde ++ "pub " ++ f.ident ++ ": " ++ optionText type ++ ",\n"

theorem RecordField.exists_text_eq (f : RecordField) : ∃ serde, f.text =
    serde ++ "pub " ++ f.ident ++ ": " ++ optionText f.typeText ++ ",\n" :=
  ⟨_, rfl⟩

/-- A line that initialises the field with what a getter of the item gives for its tag. -/
def InitialisesField (item : Place) (f : Field) (line : String) : Prop :=
  ∃ lead getter rest, line =
    f.ident ++ ": " ++ lead ++ item.text ++ "." ++ getter ++ "(" ++ tagPath f.id ++ ")" ++ rest

/-- A statement that pushes the field of `value` onto the vector under its tag. -/
def PushesField (value vector : Place) (f : Field) (statement : String) : Prop :=
  ∃ present encoded, statement =
    Text.block ("if let Some(" ++ present ++ ") = &" ++ value.text ++ "." ++ f.ident)
        (vector.text ++ ".push((" ++ Text.Numeral.decimal f.id.toNat ++ ", " ++ encoded ++
          ").into());\n") ++
      "\n"

/-! ## Nested literals -/

/-- A struct literal: the struct and the initialisers. -/
structure Literal where
  decl : StructDecl
  inits : Inits

mutual

/-- All literals in an expression, at any depth. -/
def Decode.literals : Decode → List Literal
  | .leaf _ _ _ => []
  | .nested decl _ _ _ _ inits => ⟨decl, inits⟩ :: inits.literals
  | .list _ _ _ elements => elements.literals

def Elements.literals : Elements → List Literal
  | .leaf _ _ => []
  | .records decl _ inits => ⟨decl, inits⟩ :: inits.literals

def Inits.literals : Inits → List Literal
  | .nil => []
  | .cons _ value rest => value.literals ++ rest.literals

end

theorem Inits.mem_literals_iff {inits : Inits} {l : Literal} :
    l ∈ inits.literals ↔ ∃ p ∈ inits.toList, l ∈ p.2.literals := by
  match inits with
  | .nil =>
      simp [Inits.literals, Inits.toList]
  | .cons ident value rest =>
      simp [Inits.literals, Inits.toList, @Inits.mem_literals_iff rest l]

/-! ## The fields that are mentioned -/

namespace Layout

@[simp]
theorem item_decode (item : Place) (id : UInt8) (depth : Nat) (layout : Layout) :
    (layout.decode item id depth).item = item := by
  cases layout <;> rfl

@[simp]
theorem tag_decode (item : Place) (id : UInt8) (depth : Nat) (layout : Layout) :
    (layout.decode item id depth).tag = id := by
  cases layout <;> rfl

end Layout

namespace Resolved

variable {r : Resolved}

theorem item_memberDecode (item : Place) (depth : Nat) (m : Member r) :
    (memberDecode item depth m).item = item := by
  unfold memberDecode
  split
  · rfl
  · exact Layout.item_decode ..

theorem tag_memberDecode (item : Place) (depth : Nat) (m : Member r) :
    (memberDecode item depth m).tag = m.field.id := by
  unfold memberDecode
  split
  · rfl
  · exact Layout.tag_decode ..

theorem toList_inits_slots (owner : Option String) (fields : List Field) (item : Place)
    (depth : Nat) :
    ((r.slots owner fields).inits item depth).toList =
      (r.members owner fields).map fun m => (m.ident, memberDecode item depth m) := by
  unfold slots
  induction r.members owner fields with
  | nil =>
      rfl
  | cons m rest ih =>
      simp only [List.map_cons, Slots.ofList, Slots.inits, Inits.toList, ih, Member.ident,
        memberDecode]

/-- The statement that pushes a member. -/
def memberPush (value vector : Place) (depth : Nat) (m : Member r) : Push :=
  { owner := value
    ident := m.ident
    present := ⟨.present, depth⟩
    vector
    id := m.field.id
    encoded := memberEncode depth m }

theorem toList_pushes_slots (owner : Option String) (fields : List Field) (value vector : Place)
    (depth : Nat) :
    ((r.slots owner fields).pushes value vector depth).toList =
      (r.members owner fields).map (memberPush value vector depth) := by
  unfold slots
  induction r.members owner fields with
  | nil =>
      rfl
  | cons m rest ih =>
      simp only [List.map_cons, Slots.ofList, Slots.pushes, Pushes.toList, ih, Member.ident,
        memberPush, memberEncode]

/-! ## The kept fields -/

/-- The fields that have a representation, in order. -/
def keptFields (r : Resolved) (owner : Option String) (fields : List Field) : List Field :=
  (r.members owner fields).map Member.field

theorem idents_keptFields (owner : Option String) (fields : List Field) :
    (r.keptFields owner fields).map Field.ident = (r.members owner fields).map Member.ident := by
  rw [keptFields, List.map_map]
  refine List.map_congr_left fun m _ => ?_
  simp only [Function.comp, Member.ident]

theorem idents_recordType (name : String) (owner : Option String) (fields : List Field) :
    (r.recordType name owner fields).fields.map RecordField.ident =
      (r.keptFields owner fields).map Field.ident := by
  simp only [recordType, keptFields, List.map_map, Function.comp_def, Member.recordField,
    Member.ident]

theorem idents_inits_slots (owner : Option String) (fields : List Field) (item : Place)
    (depth : Nat) :
    ((r.slots owner fields).inits item depth).toList.map Prod.fst =
      (r.keptFields owner fields).map Field.ident := by
  simp only [toList_inits_slots, keptFields, List.map_map, Function.comp_def, Member.ident]

theorem reads_inits_slots (owner : Option String) (fields : List Field) (item : Place)
    (depth : Nat) :
    (((r.slots owner fields).inits item depth).toList.map fun p => (p.1, p.2.item, p.2.tag)) =
      (r.keptFields owner fields).map fun f => (f.ident, item, f.id) := by
  rw [toList_inits_slots, keptFields, List.map_map, List.map_map]
  refine List.map_congr_left fun m _ => ?_
  simp only [Function.comp, item_memberDecode, tag_memberDecode, Member.ident]

theorem writes_pushes_slots (owner : Option String) (fields : List Field) (value vector : Place)
    (depth : Nat) :
    (((r.slots owner fields).pushes value vector depth).toList.map fun p =>
        (p.owner, p.ident, p.vector, p.id)) =
      (r.keptFields owner fields).map fun f => (value, f.ident, vector, f.id) := by
  simp only [toList_pushes_slots, keptFields, List.map_map, Function.comp_def, Member.ident,
    memberPush]

/-! ## The kept fields in the texts -/

/-- A line for each member stands for a line for each kept field. -/
theorem forall₂_keptFields {owner : Option String} {fields : List Field}
    (P : Field → String → Prop) (line : Member r → String) (h : ∀ m, P m.field (line m)) :
    List.Forall₂ P (r.keptFields owner fields) ((r.members owner fields).map line) := by
  rw [keptFields, List.forall₂_map_left_iff, List.forall₂_map_right_iff, List.forall₂_same]
  intro m _
  exact h m

theorem text_recordType (name : String) (owner : Option String) (fields : List Field) :
    ∃ lines, (r.recordType name owner fields).text =
        "#[derive(Debug, Clone, Default, serde::Serialize)]\n" ++
          Text.block ("pub struct " ++ name) (String.join lines) ++ "\n" ∧
      List.Forall₂ DeclaresField (r.keptFields owner fields) lines := by
  have declares (m : Member r) : DeclaresField m.field m.recordField.text := by
    rcases m.recordField.exists_text_eq with ⟨serde, h⟩
    refine ⟨serde, m.recordField.typeText, ?_⟩
    rw [h]
    simp only [Member.recordField, Member.ident]
  refine ⟨(r.members owner fields).map fun m => m.recordField.text, ?_,
    forall₂_keptFields DeclaresField (fun m => m.recordField.text) declares⟩
  unfold RecordType.text recordType
  simp only [List.map_map, Function.comp_def]

theorem text_inits_slots (owner : Option String) (fields : List Field) (item : Place)
    (depth : Nat) :
    ∃ lines, ((r.slots owner fields).inits item depth).text = String.join lines ∧
      List.Forall₂ (InitialisesField item) (r.keptFields owner fields) lines := by
  let line (m : Member r) : String := m.ident ++ ": " ++ (memberDecode item depth m).text ++ ",\n"
  have initialises (m : Member r) : InitialisesField item m.field (line m) := by
    rcases (memberDecode item depth m).exists_text_eq with ⟨lead, getter, rest, h⟩
    rw [item_memberDecode, tag_memberDecode] at h
    refine ⟨lead, getter, rest ++ ",\n", ?_⟩
    simp only [line, h, Member.ident, String.append_assoc]
  refine ⟨(r.members owner fields).map line, ?_,
    forall₂_keptFields (InitialisesField item) line initialises⟩
  simp only [Inits.text_eq_join, toList_inits_slots, List.map_map, Function.comp_def, line]

theorem text_pushes_slots (owner : Option String) (fields : List Field) (value vector : Place)
    (depth : Nat) :
    ∃ statements, ((r.slots owner fields).pushes value vector depth).text =
        String.join statements ∧
      List.Forall₂ (PushesField value vector) (r.keptFields owner fields) statements := by
  have pushes (m : Member r) :
      PushesField value vector m.field (memberPush value vector depth m).text := by
    refine ⟨(memberPush value vector depth m).present.text,
      (memberPush value vector depth m).encoded.text, ?_⟩
    simp only [Push.text, memberPush, Member.ident]
  refine ⟨(r.members owner fields).map fun m => (memberPush value vector depth m).text, ?_,
    forall₂_keptFields (PushesField value vector) _ pushes⟩
  simp only [Pushes.text_eq_join, toList_pushes_slots, List.map_map, Function.comp_def]

/-! ## What nested literals initialise -/

/-- The literal is one of a declared struct.  It is made from the fields that the struct keeps as
their owner, and initialises what the type of the struct declares. -/
def Initialises (r : Resolved) (l : Literal) : Prop :=
  r.cluster.structs.get? l.decl.name = some l.decl ∧
    (∃ item depth, l.inits = (r.slots (some l.decl.name) l.decl.fields).inits item depth) ∧
    l.inits.toList.map Prod.fst = (r.structType l.decl).fields.map RecordField.ident

/-- All literals inside the written-out struct initialise what they should. -/
def InitialisesBelow (t : DeclaredStruct r) : Prop :=
  ∀ item depth, ∀ l ∈ ((r.slotsOfStruct t).inits item depth).literals, r.Initialises l

theorem initialises_slotsOfStruct (t : DeclaredStruct r) (item : Place) (depth : Nat) :
    r.Initialises ⟨t.decl, (r.slotsOfStruct t).inits item depth⟩ := by
  refine ⟨t.declared, ⟨item, depth, ?_⟩, ?_⟩
  · rw [slotsOfStruct_eq]
  · rw [slotsOfStruct_eq, idents_inits_slots, structType, idents_recordType]

theorem initialises_decode {shape : Shape r}
    (below : ∀ t, shape = .struct t → InitialisesBelow t) (item : Place) (id : UInt8)
    (depth : Nat) {l : Literal} (h : l ∈ ((r.layout shape).decode item id depth).literals) :
    r.Initialises l := by
  cases shape with
  | leaf leaf =>
      cases h
  | struct t =>
      -- The literal of `t` itself, or one that is written out inside it.
      rcases List.mem_cons.1 h with rfl | h
      · exact initialises_slotsOfStruct t _ _
      · exact below t rfl _ _ l h

theorem initialises_elements {shape : Shape r}
    (below : ∀ t, shape = .struct t → InitialisesBelow t) (depth : Nat) {l : Literal}
    (h : l ∈ ((r.layout shape).elements depth).literals) : r.Initialises l := by
  cases shape with
  | leaf leaf =>
      cases h
  | struct t =>
      rcases List.mem_cons.1 h with rfl | h
      · exact initialises_slotsOfStruct t _ _
      · exact below t rfl _ _ l h

theorem initialises_inits {owner : Option String} {fields : List Field}
    (below : ∀ m ∈ r.members owner fields, ∀ t, m.shape = .struct t → InitialisesBelow t)
    (item : Place) (depth : Nat) {l : Literal}
    (h : l ∈ ((r.slots owner fields).inits item depth).literals) : r.Initialises l := by
  rw [Inits.mem_literals_iff, toList_inits_slots] at h
  rcases h with ⟨p, hp, h⟩
  rcases List.mem_map.1 hp with ⟨m, hm, rfl⟩
  simp only [memberDecode] at h
  split at h
  · exact initialises_elements (below m hm) depth h
  · exact initialises_decode (below m hm) item m.field.id depth h

theorem initialisesBelow (t : DeclaredStruct r) : InitialisesBelow t := by
  -- Each level has an owner of its own, so the induction is on nesting and not on the expression.
  refine nests_induction ?_ t
  intro s ih item depth l h
  rw [slotsOfStruct_eq] at h
  exact initialises_inits (fun m hm t ht => ih t ⟨m, hm, ht⟩) item depth h

/-- A kept field whose values are structs is initialised with a literal. -/
theorem exists_literal_of_struct {owner : Option String} {fields : List Field} {m : Member r}
    (hm : m ∈ r.members owner fields) {t : DeclaredStruct r} (ht : m.shape = .struct t)
    (item : Place) (depth : Nat) :
    ∃ l ∈ ((r.slots owner fields).inits item depth).literals, l.decl = t.decl := by
  -- In single position the literal is the value, in list position it builds each element.
  have literal : ∃ l ∈ (memberDecode item depth m).literals, l.decl = t.decl := by
    unfold memberDecode
    rw [ht]
    split
    · exact ⟨_, List.mem_cons_self, rfl⟩
    · exact ⟨_, List.mem_cons_self, rfl⟩
  rcases literal with ⟨l, hl, hd⟩
  refine ⟨l, Inits.mem_literals_iff.2 ⟨(m.ident, memberDecode item depth m), ?_, hl⟩, hd⟩
  rw [toList_inits_slots]
  exact List.mem_map.2 ⟨m, hm, rfl⟩

/-! ## Agreement -/

/-- The struct type, the struct literal and the push statements for a list of fields mention the
kept fields: the fields that have a shape, the first one of each identifier, in order.  Each is read
and pushed under its own tag.  A nested literal, at any depth, initialises what the type of its
struct declares. -/
theorem fields_agree (r : Resolved) (owner : Option String) (fields : List Field) :
    ((r.keptFields owner fields).Sublist fields ∧
      ((r.keptFields owner fields).map Field.ident).Nodup ∧
      ∀ f, f ∈ r.keptFields owner fields ↔ r.KeepsField owner fields f) ∧
    (∀ name,
      (r.recordType name owner fields).fields.map RecordField.ident =
        (r.keptFields owner fields).map Field.ident ∧
      ∃ lines, (r.recordType name owner fields).text =
          "#[derive(Debug, Clone, Default, serde::Serialize)]\n" ++
            Text.block ("pub struct " ++ name) (String.join lines) ++ "\n" ∧
        List.Forall₂ DeclaresField (r.keptFields owner fields) lines) ∧
    (∀ item depth,
      (((r.slots owner fields).inits item depth).toList.map fun p =>
          (p.1, p.2.item, p.2.tag)) =
        ((r.keptFields owner fields).map fun f => (f.ident, item, f.id)) ∧
      (∃ lines, ((r.slots owner fields).inits item depth).text = String.join lines ∧
        List.Forall₂ (InitialisesField item) (r.keptFields owner fields) lines) ∧
      (∀ m ∈ r.members owner fields, ∀ t, m.shape = .struct t →
        ∃ l ∈ ((r.slots owner fields).inits item depth).literals, l.decl = t.decl) ∧
      ∀ l ∈ ((r.slots owner fields).inits item depth).literals, r.Initialises l) ∧
    (∀ value vector depth,
      (((r.slots owner fields).pushes value vector depth).toList.map fun p =>
          (p.owner, p.ident, p.vector, p.id)) =
        ((r.keptFields owner fields).map fun f => (value, f.ident, vector, f.id)) ∧
      ∃ statements, ((r.slots owner fields).pushes value vector depth).text =
          String.join statements ∧
        List.Forall₂ (PushesField value vector) (r.keptFields owner fields) statements) ∧
    ∀ (shape : Shape r) (depth : Nat), ∀ l ∈ ((r.layout shape).elements depth).literals,
      r.Initialises l := by
  have nodup : ((r.keptFields owner fields).map Field.ident).Nodup := by
    rw [idents_keptFields]
    exact nodup_idents_members owner fields
  refine ⟨⟨fields_members_sublist r owner fields, nodup, fun f => mem_fields_members_iff⟩,
    ?_, ?_, ?_, ?_⟩
  · intro name
    exact ⟨idents_recordType name owner fields, text_recordType name owner fields⟩
  · intro item depth
    refine ⟨reads_inits_slots owner fields item depth, text_inits_slots owner fields item depth,
      fun m hm t ht => exists_literal_of_struct hm ht item depth, ?_⟩
    intro l h
    exact initialises_inits (fun _ _ t _ => initialisesBelow t) item depth h
  · intro value vector depth
    exact ⟨writes_pushes_slots owner fields value vector depth,
      text_pushes_slots owner fields value vector depth⟩
  · intro shape depth l h
    exact initialises_elements (fun t _ => initialisesBelow t) depth h

/-- Of four fields two are kept: a struct of another cluster does not keep a later field of its
identifier out, and the second field of one identifier gives way. -/
theorem fields_agree_ring :
    ∃ (fields : List Field) (l : Literal),
      fields.map Field.ident = ["level", "level", "level", "users"] ∧
        (ring.keptFields none fields).map Field.id = [1, 3] ∧
        (((ring.slots none fields).inits (.given "item") 0).toList.map fun p =>
            (p.1, p.2.item, p.2.tag)) =
          [("level", .given "item", 1), ("users", .given "item", 3)] ∧
        l ∈ ((ring.slots none fields).inits (.given "item") 0).literals ∧
        l.decl.name = "UserStruct" ∧ ring.Initialises l := by
  let users : Field :=
    { id := 3, name := "Users", typeName := "list", entryType := some "UserStruct" }
  let levels : List Field :=
    [{ id := 0, name := "Level", typeName := "RemoteStruct" },
      { id := 1, name := "Level", typeName := "uint8" },
      { id := 2, name := "level", typeName := "uint16" }]
  let user : DeclaredStruct ring :=
    ⟨{ name := "UserStruct", fields := [{ id := 0, name := "Node", typeName := "AStruct" }] },
      by decide +kernel⟩
  have shape : ring.fieldShape none users = .ok (.struct user) :=
    fieldShape_of_structName? (by decide +kernel) rfl
  -- `users` is the first of its identifier, so no search is needed to see that it is kept.
  have others : ∀ g ∈ levels, g.ident ≠ users.ident := by
    decide +kernel
  have member : (⟨users, .struct user⟩ : Member ring) ∈ ring.members none (levels ++ [users]) :=
    mem_members_iff.2 ⟨shape, levels, [], rfl, fun g hg same => (others g hg same).elim⟩
  rcases fields_agree ring none (levels ++ [users]) with ⟨-, -, inits, -, -⟩
  rcases inits (.given "item") 0 with ⟨reads, -, literals, initialises⟩
  rcases literals _ member user rfl with ⟨l, hl, hd⟩
  refine ⟨levels ++ [users], l, by decide +kernel, by decide +kernel, ?_, hl, by rw [hd],
    initialises l hl⟩
  rw [reads]
  decide +kernel

end Resolved
end ClusterCodec

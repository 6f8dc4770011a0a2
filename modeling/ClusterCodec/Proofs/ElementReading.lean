import ClusterCodec.Proofs.TagValues
import ClusterCodec.Proofs.TreeReading

/-!
# ElementReading — what an element comes to, read off its tag and its direct children

- `fieldOf`, `enumOf`, `attributeOf`, `declaredOf` and so on: each part of a declaration as a function
  of the values of the tag and of the children with certain names.
- `unlessUnusable`: a result, unless a field element has an id that is no 8-bit number; the failures
  of steps that follow each other are those of all of them.
- `fieldIn_eq`, `enumIn_eq`, `attributeIn_eq` and so on: the readers compute these functions for every
  readable element.
-/

namespace ClusterCodec
namespace Reading

open Xml

/-! ## Declarations -/

/-- The type that the last `entry` child names. -/
def entryTypeOf (body : Option (List Node)) : Option String :=
  (elementsNamed "entry" body).getLast?.bind (value? ·.1 "type")

/-- Whether the last `quality` child says so. -/
def nullableOf (body : Option (List Node)) : Bool :=
  ((elementsNamed "quality" body).getLast?.bind (value? ·.1 "nullable")).any isTrue

def fieldOf (e : Element) : Field where
  id := UInt8.ofNat (((value? e.1 "id").bind (Text.Numeral.readBelow 8)).getD 0)
  name := declaredName e.1
  typeName := (value? e.1 "type").getD unknownType
  entryType := entryTypeOf e.2
  defaultText := value? e.1 "default"
  nullable := nullableOf e.2
  mandatory := !(elementsNamed "mandatoryConform" e.2).isEmpty

@[simp] theorem entryTypeOf_none : entryTypeOf none = none := rfl

@[simp] theorem nullableOf_none : nullableOf none = false := rfl

@[simp] theorem elementsNamed_none (name : String) : elementsNamed name none = [] := rfl

def fieldsOf (body : Option (List Node)) : List Field :=
  (elementsNamed "field" body).map fieldOf

@[simp] theorem fieldsOf_none : fieldsOf none = [] := rfl

def itemOf (e : Element) : EnumItem where
  value := UInt64.ofNat (((value? e.1 "value").bind Text.Numeral.readNat).getD 0)
  name := declaredName e.1
  variant := Name.Identifier.ofVariant (declaredName e.1)
  summary := (value? e.1 "summary").getD ""

/-- A flag, if its position is a 32-bit number. -/
def flagOf (e : Element) : Option BitFlag :=
  ((value? e.1 "bit").bind (Text.Numeral.readBelow 32)).map fun position =>
    { position := UInt32.ofNat position
      name := declaredName e.1
      constant := Name.Identifier.ofConstant (declaredName e.1)
      summary := (value? e.1 "summary").getD "" }

def enumOf (e : Element) : EnumDecl :=
  { name := declaredName e.1, items := (elementsNamed "item" e.2).map itemOf }

def bitmapOf (e : Element) : BitmapDecl :=
  { name := declaredName e.1, flags := (elementsNamed "bitfield" e.2).filterMap flagOf }

def structOf (e : Element) : StructDecl :=
  { name := declaredName e.1, fields := fieldsOf e.2 }

def attributeOf (e : Element) : Attribute where
  id := (value? e.1 "id").getD "0x0000"
  field :=
    { id := 0
      name := declaredName e.1
      typeName := (value? e.1 "type").getD unknownType
      entryType := entryTypeOf e.2
      defaultText := value? e.1 "default"
      nullable := nullableOf e.2
      mandatory := true }

def declaredOf (e : Element) : Declared where
  direction := ((value? e.1 "direction").map Direction.ofText).getD .toServer
  command :=
    { id := (value? e.1 "id").getD "0x00", name := declaredName e.1, fields := fieldsOf e.2 }

def eventOf (e : Element) : ClusterCodec.Event where
  id := (value? e.1 "id").getD "0x00"
  name := declaredName e.1
  priority := (value? e.1 "priority").getD "info"
  fields := fieldsOf e.2

/-! ## Field ids -/

/-- The id of a field element, if it is no 8-bit number. -/
def unusableId? (e : Element) : Option String :=
  (value? e.1 "id").filter fun id => (Text.Numeral.readBelow 8 id).isNone

/-- `a`, unless one of the field elements has an unusable id. The first one counts. -/
def unlessUnusable {α : Type} (fields : List Element) (a : α) : Except ReadError α :=
  match fields.findSome? unusableId? with
  | some id => .error (.invalidAttribute "field" "id" id)
  | none => .ok a

section

variable {α β σ : Type}

@[simp] theorem unlessUnusable_nil (a : α) : unlessUnusable [] a = .ok a := rfl

/-- The failures of two steps, one after the other, are those of both. -/
theorem unlessUnusable_bind {a : α} {fields others : List Element} {f : α → Except ReadError β}
    {b : β} (next : f a = unlessUnusable others b) :
    (unlessUnusable fields a >>= f) = unlessUnusable (fields ++ others) b := by
  unfold unlessUnusable
  rw [List.findSome?_append]
  cases fields.findSome? unusableId? with
  | some id => rfl
  | none => exact next

theorem unlessUnusable_map (fields : List Element) (a : α) (f : α → β) :
    (unlessUnusable fields a).map f = unlessUnusable fields (f a) := by
  unfold unlessUnusable
  cases fields.findSome? unusableId? <;> rfl

theorem foldlM_unlessUnusable {step : σ → Element → Except ReadError σ} (total : σ → Element → σ)
    (fields : Element → List Element) {children : List Element}
    (steps : ∀ child ∈ children, ∀ s, step s child = unlessUnusable (fields child) (total s child))
    (s : σ) :
    children.foldlM step s = unlessUnusable (children.flatMap fields) (children.foldl total s) := by
  induction children generalizing s with
  | nil => rfl
  | cons child children ih =>
      rw [List.foldlM_cons, steps child List.mem_cons_self, List.flatMap_cons, List.foldl_cons]
      refine unlessUnusable_bind (ih ?_ _)
      exact fun other inside => steps other (List.mem_cons_of_mem _ inside)

theorem mapM_unlessUnusable {of : Element → Except ReadError α} (total : Element → α)
    (fields : Element → List Element) {elements : List Element}
    (each : ∀ e ∈ elements, of e = unlessUnusable (fields e) (total e)) :
    elements.mapM of = unlessUnusable (elements.flatMap fields) (elements.map total) := by
  induction elements with
  | nil => rfl
  | cons e elements ih =>
      rw [List.mapM_cons, each e List.mem_cons_self, List.flatMap_cons, List.map_cons]
      refine unlessUnusable_bind ?_
      rw [ih fun other inside => each other (List.mem_cons_of_mem _ inside)]
      exact unlessUnusable_map _ _ _

end

/-! ## Tags -/

section

variable {tag : Tag}

theorem eq_of_fieldAttribute {f f' : Field} {key value : String}
    (stepped : fieldAttribute f key value = .ok f') :
    f' = { f with
      id := if key = "id" then UInt8.ofNat ((Text.Numeral.readBelow 8 value).getD 0) else f.id
      name := if key = "name" then value else f.name
      typeName := if key = "type" then value else f.typeName
      defaultText := if key = "default" then some value else f.defaultText } := by
  unfold fieldAttribute at stepped
  split_ifs at stepped with isId
  · cases read : Text.Numeral.readBelow 8 value with
    | none => simp [read] at stepped
    | some id =>
        simp only [read] at stepped
        cases stepped
        simp [isId]
  all_goals
    cases stepped
    simp [*]

/-- An unusable id is what the tag of a field fails with. -/
theorem fieldTag_of_unusable (readable : Readable tag) {body : Option (List Node)} {id : String}
    (unusable : unusableId? (tag, body) = some id) :
    fieldTag tag = .error (.invalidAttribute "field" "id" id) := by
  rcases Option.filter_eq_some_iff.1 unusable with ⟨declared, notRead⟩
  rw [fieldTag, foldAttributes_eq readable]
  refine foldlM_eq_error ?_ ?_ declared
  · intro f
    rw [fieldAttribute, if_pos rfl, Option.isNone_iff_eq_none.1 notRead]
  · intro f key value notId
    rw [fieldAttribute, if_neg notId]
    split_ifs <;> exact ⟨_, rfl⟩

theorem exists_fieldAttribute_eq {body : Option (List Node)}
    (usable : unusableId? (tag, body) = none) (f : Field) {key value : String}
    (declared : value? tag key = some value) : ∃ f', fieldAttribute f key value = .ok f' := by
  rw [fieldAttribute]
  split_ifs with isId
  · rw [unusableId?, ← isId, declared] at usable
    cases read : Text.Numeral.readBelow 8 value with
    | none => simp [read] at usable
    | some id => exact ⟨_, rfl⟩
  all_goals exact ⟨_, rfl⟩

/-- With a usable id, the tag of a field gives what its attributes declare. -/
theorem fieldTag_of_usable (readable : Readable tag) {body : Option (List Node)}
    (usable : unusableId? (tag, body) = none) : fieldTag tag = .ok (fieldOf (tag, none)) := by
  rcases exists_foldAttributes_eq readable (fun f _ _ => exists_fieldAttribute_eq usable f)
    ⟨0, unknownName, unknownType, none, none, false, false⟩ with ⟨f, folded⟩
  refine folded.trans (congrArg _ ?_)
  -- Each part of the field is decided by one key or by none.
  have id := foldAttributes_component readable Field.id "id"
    (fun _ _ _ _ h => by rw [eq_of_fieldAttribute h]) folded
  have name := foldAttributes_component readable Field.name "name"
    (fun _ _ _ _ h => by rw [eq_of_fieldAttribute h]) folded
  have typeName := foldAttributes_component readable Field.typeName "type"
    (fun _ _ _ _ h => by rw [eq_of_fieldAttribute h]) folded
  have defaultText := foldAttributes_component readable Field.defaultText "default"
    (fun _ _ _ _ h => by rw [eq_of_fieldAttribute h]) folded
  have others := foldAttributes_preserved readable
    (fun f : Field => (f.entryType, f.nullable, f.mandatory))
    (fun _ _ _ _ h => by rw [eq_of_fieldAttribute h]) folded
  rcases f with ⟨id', name', typeName', entryType', defaultText', nullable', mandatory'⟩
  simp only [Prod.mk.injEq] at others
  rcases others with ⟨rfl, rfl, rfl⟩
  dsimp only at id name typeName defaultText
  rw [id, name, typeName, defaultText, fieldOf]
  cases value? tag "id" <;> simp [declaredName, getD_map_some]

/-- What a field element is before its body is read, or the failure of its id. -/
theorem fieldTag_eq (readable : Readable tag) (body : Option (List Node)) :
    fieldTag tag = unlessUnusable [(tag, body)] (fieldOf (tag, none)) := by
  rw [unlessUnusable, List.findSome?_cons]
  cases usable : unusableId? (tag, body) with
  | some id => exact fieldTag_of_unusable readable usable
  | none => exact fieldTag_of_usable readable usable

theorem eq_of_attributeAttribute {a a' : Attribute} {key value : String}
    (stepped : attributeAttribute a key value = .ok a') :
    a' = ⟨if key = "id" then value else a.id,
      { a.field with
        name := if key = "name" then value else a.field.name
        typeName := if key = "type" then value else a.field.typeName
        defaultText := if key = "default" then some value else a.field.defaultText }⟩ := by
  unfold attributeAttribute at stepped
  split_ifs at stepped
  all_goals
    cases stepped
    simp [*]

theorem attributeTag_eq (readable : Readable tag) :
    attributeTag tag = .ok (attributeOf (tag, none)) := by
  have total : ∀ a key value, value? tag key = some value →
      ∃ a', attributeAttribute a key value = .ok a' := by
    intro a key value _
    rw [attributeAttribute]
    split_ifs <;> exact ⟨_, rfl⟩
  rcases exists_foldAttributes_eq readable total
    ⟨"0x0000", ⟨0, unknownName, unknownType, none, none, false, true⟩⟩ with ⟨a, folded⟩
  refine folded.trans (congrArg _ ?_)
  -- As for a field, except that the id is kept as it is written.
  have id := foldAttributes_component readable Attribute.id "id"
    (fun _ _ _ _ h => by rw [eq_of_attributeAttribute h]) folded
  have name := foldAttributes_component readable (fun a : Attribute => a.field.name) "name"
    (fun _ _ _ _ h => by rw [eq_of_attributeAttribute h]) folded
  have typeName := foldAttributes_component readable (fun a : Attribute => a.field.typeName) "type"
    (fun _ _ _ _ h => by rw [eq_of_attributeAttribute h]) folded
  have defaultText :=
    foldAttributes_component readable (fun a : Attribute => a.field.defaultText) "default"
      (fun _ _ _ _ h => by rw [eq_of_attributeAttribute h]) folded
  have others := foldAttributes_preserved readable (fun a : Attribute =>
      (a.field.id, a.field.entryType, a.field.nullable, a.field.mandatory))
    (fun _ _ _ _ h => by rw [eq_of_attributeAttribute h]) folded
  rcases a with ⟨id', fieldId, name', typeName', entryType', defaultText', nullable', mandatory'⟩
  simp only [Prod.mk.injEq] at others
  rcases others with ⟨rfl, rfl, rfl, rfl⟩
  dsimp only at id name typeName defaultText
  rw [id, name, typeName, defaultText, attributeOf]
  simp [declaredName, getD_map_some]

theorem eq_of_commandAttribute {d d' : Declared} {key value : String}
    (stepped : commandAttribute d key value = .ok d') :
    d' = ⟨if key = "direction" then Direction.ofText value else d.direction,
      { d.command with
        id := if key = "id" then value else d.command.id
        name := if key = "name" then value else d.command.name }⟩ := by
  unfold commandAttribute at stepped
  split_ifs at stepped
  all_goals
    cases stepped
    simp [*]

theorem commandTag_eq (readable : Readable tag) : commandTag tag = .ok (declaredOf (tag, none)) := by
  have total : ∀ d key value, value? tag key = some value →
      ∃ d', commandAttribute d key value = .ok d' := by
    intro d key value _
    rw [commandAttribute]
    split_ifs <;> exact ⟨_, rfl⟩
  rcases exists_foldAttributes_eq readable total ⟨.toServer, ⟨"0x00", unknownName, []⟩⟩
    with ⟨d, folded⟩
  refine folded.trans (congrArg _ ?_)
  have direction := foldAttributes_component readable Declared.direction "direction"
    (fun _ _ _ _ h => by rw [eq_of_commandAttribute h]) folded
  have id := foldAttributes_component readable (fun d : Declared => d.command.id) "id"
    (fun _ _ _ _ h => by rw [eq_of_commandAttribute h]) folded
  have name := foldAttributes_component readable (fun d : Declared => d.command.name) "name"
    (fun _ _ _ _ h => by rw [eq_of_commandAttribute h]) folded
  have fields := foldAttributes_preserved readable (fun d : Declared => d.command.fields)
    (fun _ _ _ _ h => by rw [eq_of_commandAttribute h]) folded
  rcases d with ⟨direction', id', name', fields'⟩
  dsimp only at direction id name fields
  rw [direction, id, name, fields, declaredOf]
  simp [declaredName]

theorem eq_of_eventAttribute {e e' : ClusterCodec.Event} {key value : String}
    (stepped : eventAttribute e key value = .ok e') :
    e' = { e with
      id := if key = "id" then value else e.id
      name := if key = "name" then value else e.name
      priority := if key = "priority" then value else e.priority } := by
  unfold eventAttribute at stepped
  split_ifs at stepped
  all_goals
    cases stepped
    simp [*]

theorem eventTag_eq (readable : Readable tag) : eventTag tag = .ok (eventOf (tag, none)) := by
  have total : ∀ e key value, value? tag key = some value →
      ∃ e', eventAttribute e key value = .ok e' := by
    intro e key value _
    rw [eventAttribute]
    split_ifs <;> exact ⟨_, rfl⟩
  rcases exists_foldAttributes_eq readable total ⟨"0x00", unknownName, "info", []⟩
    with ⟨e, folded⟩
  refine folded.trans (congrArg _ ?_)
  have id := foldAttributes_component readable ClusterCodec.Event.id "id"
    (fun _ _ _ _ h => by rw [eq_of_eventAttribute h]) folded
  have name := foldAttributes_component readable ClusterCodec.Event.name "name"
    (fun _ _ _ _ h => by rw [eq_of_eventAttribute h]) folded
  have priority := foldAttributes_component readable ClusterCodec.Event.priority "priority"
    (fun _ _ _ _ h => by rw [eq_of_eventAttribute h]) folded
  have fields := foldAttributes_preserved readable ClusterCodec.Event.fields
    (fun _ _ _ _ h => by rw [eq_of_eventAttribute h]) folded
  rcases e with ⟨id', name', priority', fields'⟩
  dsimp only at id name priority fields
  rw [id, name, priority, fields, eventOf]
  simp [declaredName]

theorem headerTag_eq (readable : Readable tag) : headerTag tag =
    .ok (.ofHeader ((value? tag "id").getD "0x0000") (declaredName tag)) := by
  have stepped : ∀ {header header' : String × String} {key value : String},
      headerAttribute header key value = .ok header' →
        header' = (if key = "id" then value else header.1,
          if key = "name" then value else header.2) := by
    intro header header' key value stepped
    unfold headerAttribute at stepped
    split_ifs at stepped
    all_goals
      cases stepped
      simp [*]
  have total : ∀ header key value, value? tag key = some value →
      ∃ header', headerAttribute header key value = .ok header' := by
    intro header key value _
    rw [headerAttribute]
    split_ifs <;> exact ⟨_, rfl⟩
  rcases exists_foldAttributes_eq readable total ("0x0000", unknownName) with ⟨header, folded⟩
  have id := foldAttributes_component readable Prod.fst "id"
    (fun _ _ _ _ h => by rw [stepped h]) folded
  have name := foldAttributes_component readable Prod.snd "name"
    (fun _ _ _ _ h => by rw [stepped h]) folded
  rcases header with ⟨id', name'⟩
  dsimp only at id name
  rw [headerTag, folded, id, name]
  simp [declaredName]

end

/-! ## Elements -/

/-- Every tag in the tree of the element is readable. -/
def ReadableTree (e : Element) : Prop :=
  ∀ tag ∈ (Node.element e.1 e.2).tags, Readable tag

theorem ReadableTree.tag {e : Element} (readable : ReadableTree e) : Readable e.1 := by
  rcases e with ⟨tag, body⟩
  apply readable
  cases body <;> rw [Node.tags] <;> exact List.mem_cons_self

theorem tags_subset_tagsOf {node : Node} {nodes : List Node} (inside : node ∈ nodes) :
    node.tags ⊆ tagsOf nodes := by
  induction nodes with
  | nil => cases inside
  | cons first nodes ih =>
      rw [tagsOf]
      rcases List.mem_cons.1 inside with rfl | later
      · exact List.subset_append_left _ _
      · exact List.subset_append_of_subset_right _ (ih later)

theorem mem_of_mem_elementsOf {child : Element} {nodes : List Node}
    (inside : child ∈ elementsOf nodes) :
    Node.element child.1 child.2 ∈ nodes := by
  rcases List.mem_filterMap.1 inside with ⟨node, present, same⟩
  cases node with
  | other => cases same
  | element tag body =>
      cases same
      exact present

theorem ReadableTree.child {e child : Element} (readable : ReadableTree e)
    (inside : child ∈ childrenOf e.2) : ReadableTree child := by
  rcases e with ⟨tag, body⟩
  cases body with
  | none => cases inside
  | some nodes =>
      intro tag' present
      apply readable
      rw [Node.tags]
      exact List.mem_cons_of_mem _ (tags_subset_tagsOf (mem_of_mem_elementsOf inside) present)

theorem ReadableTree.named {e child : Element} {name : String} (readable : ReadableTree e)
    (inside : child ∈ elementsNamed name e.2) : ReadableTree child :=
  readable.child (List.mem_filter.1 inside).1

/-- The children decide what qualifies a field: the last `entry` and the last `quality`, and whether
there is a `mandatoryConform`. -/
theorem foldlM_qualify {children : List Element} (readable : ∀ child ∈ children, Readable child.1)
    (field : Field) :
    children.foldlM (fun field child => qualify field child.1) field = .ok
      { field with
        entryType := (children.filter (·.1.name == "entry")).getLast?.elim field.entryType
          (value? ·.1 "type")
        nullable := (children.filter (·.1.name == "quality")).getLast?.elim field.nullable
          fun child => (value? child.1 "nullable").any isTrue
        mandatory := field.mandatory || children.any (·.1.name == "mandatoryConform") } := by
  induction children generalizing field with
  | nil =>
      rw [List.any_nil, Bool.or_false]
      rfl
  | cons child children ih =>
      have later := fun field =>
        ih (fun other inside => readable other (List.mem_cons_of_mem _ inside)) field
      have own := readable child List.mem_cons_self
      rw [List.foldlM_cons, qualify]
      -- A child counts unless a later one has its name.
      split_ifs with entry quality conform
      · rw [attribute?_eq own]
        refine (later _).trans ?_
        cases last : (children.filter (·.1.name == "entry")).getLast? <;>
          simp [entry, last, List.getLast?_cons]
      · rw [attribute?_eq own]
        refine (later _).trans ?_
        cases last : (children.filter (·.1.name == "quality")).getLast? <;>
          simp [quality, last, List.getLast?_cons]
      · refine (later _).trans ?_
        simp [conform]
      · have passed : (child.1.name == "mandatoryConform") = false := beq_false_of_ne conform
        refine (later _).trans ?_
        simp [entry, quality, passed]

/-- The qualifiers of an element that is not qualified yet. -/
theorem qualifiedIn_eq {e : Element} (readable : ReadableTree e) {field : Field}
    (untyped : field.entryType = none) (notNull : field.nullable = false) :
    qualifiedIn field e.2 = .ok
      { field with
        entryType := entryTypeOf e.2
        nullable := nullableOf e.2
        mandatory := field.mandatory || !(elementsNamed "mandatoryConform" e.2).isEmpty } := by
  have conform : (childrenOf e.2).any (·.1.name == "mandatoryConform") =
      !(elementsNamed "mandatoryConform" e.2).isEmpty := by
    unfold elementsNamed
    induction childrenOf e.2 with
    | nil => rfl
    | cons child children ih =>
        rw [List.any_cons, List.filter_cons, ih]
        cases child.1.name == "mandatoryConform" <;> rfl
  rw [qualifiedIn, foldlM_qualify fun child inside => (readable.child inside).tag, untyped, notNull,
    conform, entryTypeOf, nullableOf]
  unfold elementsNamed
  cases ((childrenOf e.2).filter (·.1.name == "entry")).getLast? <;>
    cases ((childrenOf e.2).filter (·.1.name == "quality")).getLast? <;> rfl

theorem fieldIn_eq {e : Element} (readable : ReadableTree e) :
    fieldIn e = unlessUnusable [e] (fieldOf e) := by
  rw [fieldIn, fieldTag_eq readable.tag e.2]
  refine unlessUnusable_bind ?_
  exact qualifiedIn_eq readable rfl rfl

theorem fieldsIn_eq {e : Element} (readable : ReadableTree e) :
    fieldsIn e.2 = unlessUnusable (elementsNamed "field" e.2) (fieldsOf e.2) := by
  have each : ∀ field ∈ elementsNamed "field" e.2,
      fieldIn field = unlessUnusable [field] (fieldOf field) :=
    fun field inside => fieldIn_eq (readable.named inside)
  have all := mapM_unlessUnusable fieldOf (fun field => [field]) each
  rw [List.flatMap_singleton'] at all
  exact all

theorem attributeIn_eq {e : Element} (readable : ReadableTree e) :
    attributeIn e = .ok (attributeOf e) := by
  rw [attributeIn, attributeTag_eq readable.tag, ok_bind, qualifiedIn_eq readable rfl rfl]
  rfl

theorem commandIn_eq {e : Element} (readable : ReadableTree e) :
    commandIn e = unlessUnusable (elementsNamed "field" e.2) (declaredOf e) := by
  rw [commandIn, commandTag_eq readable.tag, ok_bind, fieldsIn_eq readable]
  exact unlessUnusable_map _ _ _

theorem eventIn_eq {e : Element} (readable : ReadableTree e) :
    eventIn e = unlessUnusable (elementsNamed "field" e.2) (eventOf e) := by
  rw [eventIn, eventTag_eq readable.tag, ok_bind, fieldsIn_eq readable]
  exact unlessUnusable_map _ _ _

theorem structIn_eq {e : Element} (readable : ReadableTree e) :
    structIn e = unlessUnusable (elementsNamed "field" e.2) (structOf e) := by
  rw [structIn, nameOf_eq readable.tag, ok_bind, fieldsIn_eq readable]
  exact unlessUnusable_map _ _ _

/-- Going through the children with a name, where every step succeeds. -/
theorem foldlM_named {σ : Type} {step : σ → Tag → Except ReadError σ} (total : σ → Element → σ)
    {name : String} {children : List Element}
    (steps : ∀ child ∈ children, ∀ s, step s child.1 = .ok (total s child)) (s : σ) :
    children.foldlM (fun s child => if child.1.name = name then step s child.1 else .ok s) s =
      .ok ((children.filter (·.1.name == name)).foldl total s) := by
  induction children generalizing s with
  | nil => rfl
  | cons child children ih =>
      have later := ih fun child inside => steps child (List.mem_cons_of_mem _ inside)
      rw [List.foldlM_cons]
      by_cases named : child.1.name = name
      · rw [if_pos named, steps child List.mem_cons_self,
          List.filter_cons_of_pos (by simpa using named)]
        exact later _
      · rw [if_neg named, List.filter_cons_of_neg (by simpa using named)]
        exact later _

theorem addItem_eq {tag : Tag} (readable : Readable tag) (d : EnumDecl)
    (body : Option (List Node)) :
    addItem d tag = .ok { d with items := d.items ++ [itemOf (tag, body)] } := by
  rw [addItem, attribute?_eq readable, nameOf_eq readable, attribute?_eq readable]
  rfl

theorem foldl_itemOf (children : List Element) (d : EnumDecl) :
    children.foldl (fun d child => { d with items := d.items ++ [itemOf child] }) d =
      { d with items := d.items ++ children.map itemOf } := by
  induction children generalizing d with
  | nil =>
      rw [List.map_nil, List.append_nil]
      rfl
  | cons child children ih =>
      rw [List.foldl_cons, ih, List.map_cons, List.append_assoc]
      rfl

theorem enumIn_eq {e : Element} (readable : ReadableTree e) : enumIn e = .ok (enumOf e) := by
  rw [enumIn, nameOf_eq readable.tag]
  refine (foldlM_named _ ?_ _).trans (congrArg _ (foldl_itemOf _ _))
  exact fun child inside d => addItem_eq (readable.child inside).tag d child.2

theorem addFlag_eq {tag : Tag} (readable : Readable tag) (d : BitmapDecl)
    (body : Option (List Node)) :
    addFlag d tag = .ok { d with flags := d.flags ++ (flagOf (tag, body)).toList } := by
  rw [addFlag, attribute?_eq readable, nameOf_eq readable, attribute?_eq readable, flagOf, ok_bind]
  dsimp only
  cases (value? tag "bit").bind (Text.Numeral.readBelow 32) with
  | none =>
      change Except.ok d = .ok { d with flags := d.flags ++ [] }
      rw [List.append_nil]
  | some position => rfl

theorem foldl_flagOf (children : List Element) (d : BitmapDecl) :
    children.foldl (fun d child => { d with flags := d.flags ++ (flagOf child).toList }) d =
      { d with flags := d.flags ++ children.filterMap flagOf } := by
  induction children generalizing d with
  | nil =>
      rw [List.filterMap_nil, List.append_nil]
      rfl
  | cons child children ih =>
      rw [List.foldl_cons, ih, List.append_assoc]
      cases flag : flagOf child with
      | none =>
          rw [List.filterMap_cons_none flag]
          rfl
      | some f =>
          rw [List.filterMap_cons_some flag]
          rfl

theorem bitmapIn_eq {e : Element} (readable : ReadableTree e) : bitmapIn e = .ok (bitmapOf e) := by
  rw [bitmapIn, nameOf_eq readable.tag]
  refine (foldlM_named _ ?_ _).trans (congrArg _ (foldl_flagOf _ _))
  exact fun child inside d => addFlag_eq (readable.child inside).tag d child.2

end Reading
end ClusterCodec

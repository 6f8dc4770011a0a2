import ClusterCodec.Proofs.ElementReading
import ClusterCodec.Proofs.TagKeys

/-!
# StructuralReading — reading a document is a recursion over its tree

- `clusterOf`: the cluster of a tree: the sections with certain names, in them the declarations with
  certain names, and so on.
- `fieldElements`: the field elements of a tree that are read.
- `Place`, `prune`: the tree without anything that is not read; `reading_prune`: it reads the same.
- `Cluster.ofText_eq_reading`: a text whose events deliver a tree is read as the tree says.
-/

namespace ClusterCodec
namespace Reading

open Xml

/-! ## Documents -/

/-- The sections with a name that are not empty elements. -/
def sectionsNamed (name : String) (root : Element) : List Element :=
  (elementsNamed name root.2).filter (·.2.isSome)

/-- The declarations of a kind in all data type sections. -/
def dataTypesNamed (name : String) (root : Element) : List Element :=
  (sectionsNamed "dataTypes" root).flatMap (elementsNamed name ·.2)

/-- The commands of a section. -/
def declaredIn (e : Element) : List Declared :=
  (elementsNamed "command" e.2).map declaredOf

/-- The cluster that the tree of a document describes. -/
def clusterOf (root : Element) : Cluster :=
  { Cluster.ofHeader ((value? root.1 "id").getD "0x0000") (declaredName root.1) with
    enums := (dataTypesNamed "enum" root).foldl (fun t e => t.insert (enumOf e)) ∅
    bitmaps := (dataTypesNamed "bitmap" root).foldl (fun t e => t.insert (bitmapOf e)) ∅
    structs := (dataTypesNamed "struct" root).foldl (fun t e => t.insert (structOf e)) ∅
    attributes := (sectionsNamed "attributes" root).getLast?.elim [] fun e =>
      (elementsNamed "attribute" e.2).map attributeOf
    events := (sectionsNamed "events" root).getLast?.elim [] fun e =>
      (elementsNamed "event" e.2).map eventOf
    commands := (sectionsNamed "commands" root).flatMap fun e => clientCommands (declaredIn e)
    responses := (sectionsNamed "commands" root).flatMap fun e => serverResponses (declaredIn e) }

/-- The field elements of a section that are read, in order. -/
def fieldElementsIn (e : Element) : List Element :=
  if e.2.isNone then []
  else if e.1.name = "dataTypes" then
    (elementsNamed "struct" e.2).flatMap (elementsNamed "field" ·.2)
  -- The tag of an attribute is not read from its id.
  else if e.1.name = "attributes" then []
  else if e.1.name = "commands" then
    (elementsNamed "command" e.2).flatMap (elementsNamed "field" ·.2)
  else if e.1.name = "events" then (elementsNamed "event" e.2).flatMap (elementsNamed "field" ·.2)
  else []

/-- The field elements of a document that are read, in order. -/
def fieldElements (root : Element) : List Element :=
  (childrenOf root.2).flatMap fieldElementsIn

/-- What the tree of a document comes to. -/
def reading (root : Element) : Except ReadError Cluster :=
  unlessUnusable (fieldElements root) (clusterOf root)

/-! ## Sections -/

/-- Takes up a declaration of a data type. -/
def withDataType (c : Cluster) (e : Element) : Cluster :=
  if e.1.name = "enum" then { c with enums := c.enums.insert (enumOf e) }
  else if e.1.name = "bitmap" then { c with bitmaps := c.bitmaps.insert (bitmapOf e) }
  else if e.1.name = "struct" then { c with structs := c.structs.insert (structOf e) }
  else c

theorem addDataType_eq {e : Element} (readable : ReadableTree e) (c : Cluster) :
    addDataType c e =
      unlessUnusable (if e.1.name = "struct" then elementsNamed "field" e.2 else [])
        (withDataType c e) := by
  rw [addDataType, withDataType]
  split_ifs with enum bitmap struct struct' struct''
  · simp_all
  · rw [enumIn_eq readable]
    rfl
  · simp_all
  · rw [bitmapIn_eq readable]
    rfl
  · rw [structIn_eq readable]
    exact unlessUnusable_map _ _ _
  · rfl

/-- Takes up a section. -/
def withSection (c : Cluster) (e : Element) : Cluster :=
  if e.2.isNone then c
  else if e.1.name = "dataTypes" then (childrenOf e.2).foldl withDataType c
  else if e.1.name = "attributes" then
    { c with attributes := (elementsNamed "attribute" e.2).map attributeOf }
  else if e.1.name = "commands" then
    { c with
      commands := c.commands ++ clientCommands (declaredIn e)
      responses := c.responses ++ serverResponses (declaredIn e) }
  else if e.1.name = "events" then { c with events := (elementsNamed "event" e.2).map eventOf }
  else c

theorem flatMap_named {name : String} {body : Option (List Node)} {α : Type}
    (of : Element → List α) :
    (childrenOf body).flatMap (fun e => if e.1.name = name then of e else []) =
      (elementsNamed name body).flatMap of := by
  unfold elementsNamed
  induction childrenOf body with
  | nil => rfl
  | cons child children ih =>
      rw [List.flatMap_cons, ih]
      by_cases named : child.1.name = name
      · rw [if_pos named, List.filter_cons_of_pos (by simpa using named)]
        rfl
      · rw [if_neg named, List.filter_cons_of_neg (by simpa using named)]
        rfl

theorem addSection_eq {e : Element} (readable : ReadableTree e) (c : Cluster) :
    addSection c e = unlessUnusable (fieldElementsIn e) (withSection c e) := by
  rw [addSection, withSection, fieldElementsIn]
  split_ifs with absent dataTypes attributes commands events
  · rfl
  · rw [foldlM_unlessUnusable withDataType _ fun child inside =>
        addDataType_eq (readable.child inside), flatMap_named fun e => elementsNamed "field" e.2]
  · have each : ∀ child ∈ elementsNamed "attribute" e.2,
        attributeIn child = .ok (attributeOf child) :=
      fun child inside => attributeIn_eq (readable.named inside)
    have all := mapM_unlessUnusable attributeOf (fun _ => []) each
    rw [List.flatMap_eq_nil_iff.2 fun _ _ => rfl] at all
    rw [all]
    exact unlessUnusable_map _ _ _
  · rw [mapM_unlessUnusable declaredOf _ fun child inside => commandIn_eq (readable.named inside)]
    exact unlessUnusable_map _ _ _
  · rw [mapM_unlessUnusable eventOf _ fun child inside => eventIn_eq (readable.named inside)]
    exact unlessUnusable_map _ _ _
  · rfl

/-! ## The whole document -/

theorem foldl_withDataType (children : List Element) (c : Cluster) :
    children.foldl withDataType c =
      { c with
        enums := (children.filter (·.1.name == "enum")).foldl (fun t e => t.insert (enumOf e)) c.enums
        bitmaps := (children.filter (·.1.name == "bitmap")).foldl
          (fun t e => t.insert (bitmapOf e)) c.bitmaps
        structs := (children.filter (·.1.name == "struct")).foldl
          (fun t e => t.insert (structOf e)) c.structs } := by
  induction children generalizing c with
  | nil => rfl
  | cons child children ih =>
      rw [List.foldl_cons, ih, withDataType]
      split_ifs with enum bitmap struct
      · simp [enum]
      · simp [bitmap]
      · simp [struct]
      · simp [enum, bitmap, struct]

/-- The sections with a name among some elements. -/
def sectionsAmong (name : String) (children : List Element) : List Element :=
  (children.filter (·.1.name == name)).filter (·.2.isSome)

theorem sectionsAmong_cons (name : String) (child : Element) (children : List Element) :
    sectionsAmong name (child :: children) =
      if child.1.name = name ∧ ¬ child.2.isNone then child :: sectionsAmong name children
      else sectionsAmong name children := by
  unfold sectionsAmong
  by_cases named : child.1.name = name
  · cases body : child.2 <;> simp [named, body]
  · rw [List.filter_cons_of_neg (by simpa using named), if_neg fun h => named h.1]

theorem foldl_withSection (children : List Element) (c : Cluster) :
    children.foldl withSection c =
      { c with
        enums := ((sectionsAmong "dataTypes" children).flatMap (elementsNamed "enum" ·.2)).foldl
          (fun t e => t.insert (enumOf e)) c.enums
        bitmaps := ((sectionsAmong "dataTypes" children).flatMap (elementsNamed "bitmap" ·.2)).foldl
          (fun t e => t.insert (bitmapOf e)) c.bitmaps
        structs := ((sectionsAmong "dataTypes" children).flatMap (elementsNamed "struct" ·.2)).foldl
          (fun t e => t.insert (structOf e)) c.structs
        attributes := (sectionsAmong "attributes" children).getLast?.elim c.attributes fun e =>
          (elementsNamed "attribute" e.2).map attributeOf
        events := (sectionsAmong "events" children).getLast?.elim c.events fun e =>
          (elementsNamed "event" e.2).map eventOf
        commands := c.commands ++
          (sectionsAmong "commands" children).flatMap fun e => clientCommands (declaredIn e)
        responses := c.responses ++
          (sectionsAmong "commands" children).flatMap fun e => serverResponses (declaredIn e) } := by
  induction children generalizing c with
  | nil => simp [sectionsAmong]
  | cons child children ih =>
      rw [List.foldl_cons, ih]
      -- Of the sections of attributes and of events the last one counts, so it matters whether the
      -- later children have one.
      by_cases absent : child.2.isNone
      · simp [withSection, sectionsAmong_cons, absent]
      · by_cases dataTypes : child.1.name = "dataTypes"
        · simp [withSection, sectionsAmong_cons, absent, dataTypes, foldl_withDataType,
            elementsNamed]
        by_cases attributes : child.1.name = "attributes"
        · cases last : (sectionsAmong "attributes" children).getLast? <;>
            simp [withSection, sectionsAmong_cons, absent, attributes, last, List.getLast?_cons]
        by_cases commands : child.1.name = "commands"
        · simp [withSection, sectionsAmong_cons, absent, commands]
        by_cases events : child.1.name = "events"
        · cases last : (sectionsAmong "events" children).getLast? <;>
            simp [withSection, sectionsAmong_cons, absent, events, last, List.getLast?_cons]
        · simp [withSection, sectionsAmong_cons, dataTypes, attributes, commands, events]

theorem clusterIn_eq {root : Element} (readable : ReadableTree root) :
    clusterIn root = reading root := by
  rw [clusterIn, headerTag_eq readable.tag]
  change (childrenOf root.2).foldlM addSection _ = _
  rw [foldlM_unlessUnusable withSection fieldElementsIn fun e inside =>
    addSection_eq (readable.child inside)]
  rw [foldl_withSection, reading, fieldElements]
  rfl

/-! ## What is not read -/

/-- The elements whose children are read; `leaf` stands for those without. -/
inductive Place where
  | cluster | dataTypes | attributes | commands | events
  | enum | bitmap | record | field
  | leaf

/-- The children of a place that are read: the place that each is in turn. -/
def Place.child? : Place → String → Option Place
  | cluster, "dataTypes" => some dataTypes
  | cluster, "attributes" => some attributes
  | cluster, "commands" => some commands
  | cluster, "events" => some events
  | dataTypes, "enum" => some enum
  | dataTypes, "bitmap" => some bitmap
  | dataTypes, "struct" => some record
  | attributes, "attribute" => some field
  | commands, "command" => some record
  | events, "event" => some record
  | enum, "item" => some leaf
  | bitmap, "bitfield" => some leaf
  | record, "field" => some field
  | field, "entry" => some leaf
  | field, "quality" => some leaf
  | field, "mandatoryConform" => some leaf
  | _, _ => none

mutual

/-- A node of a place without anything that is not read. -/
def Node.prune (place : Place) : Node → List Node
  | .other => []
  | .element tag none => if (place.child? tag.name).isSome then [.element tag none] else []
  | .element tag (some body) =>
    match place.child? tag.name with
    | some inner => [.element tag (some (pruneAll inner body))]
    | none => []

def pruneAll (place : Place) : List Node → List Node
  | [] => []
  | node :: nodes => Node.prune place node ++ pruneAll place nodes

end

def prune (place : Place) (e : Element) : Element :=
  (e.1, e.2.map (pruneAll place))

theorem elementsOf_append (nodes others : List Node) :
    elementsOf (nodes ++ others) = elementsOf nodes ++ elementsOf others :=
  List.filterMap_append

/-- The children that stay are those that are read, each without what is not read in it. -/
theorem elementsOf_pruneAll (place : Place) (nodes : List Node) :
    elementsOf (pruneAll place nodes) = (elementsOf nodes).filterMap fun e =>
      (place.child? e.1.name).map fun inner => prune inner e := by
  induction nodes with
  | nil => rfl
  | cons node nodes ih =>
      rw [pruneAll, elementsOf_append, ih]
      cases node with
      | other => rfl
      | element tag body =>
          have first : elementsOf (.element tag body :: nodes) =
              (tag, body) :: elementsOf nodes := rfl
          rw [first]
          cases inner : place.child? tag.name with
          | none =>
              have gone : elementsOf (Node.prune place (.element tag body)) = [] := by
                cases body <;> simp [Node.prune, inner] <;> rfl
              rw [gone, List.filterMap_cons_none (by rw [inner]; rfl)]
              rfl
          | some p =>
              have kept :
                  elementsOf (Node.prune place (.element tag body)) = [prune p (tag, body)] := by
                cases body <;> simp [Node.prune, inner] <;> rfl
              rw [kept, List.filterMap_cons_some (by rw [inner]; rfl)]
              rfl

theorem elementsNamed_prune {place inner : Place} {name : String}
    (read : place.child? name = some inner) (e : Element) :
    elementsNamed name (prune place e).2 = (elementsNamed name e.2).map (prune inner) := by
  rcases e with ⟨tag, body⟩
  cases body with
  | none => rfl
  | some nodes =>
      change (elementsOf (pruneAll place nodes)).filter _ = ((elementsOf nodes).filter _).map _
      rw [elementsOf_pruneAll]
      induction elementsOf nodes with
      | nil => rfl
      | cons child children ih =>
          -- Pruning drops children of other names only, and changes no name.
          by_cases named : child.1.name = name
          · rw [List.filterMap_cons_some (by rw [named, read]; rfl),
              List.filter_cons_of_pos (by simpa [prune] using named),
              List.filter_cons_of_pos (by simpa using named), List.map_cons, ih]
          · rw [List.filter_cons_of_neg (by simpa using named)]
            cases inner' : place.child? child.1.name with
            | none =>
                rw [List.filterMap_cons_none (by rw [inner']; rfl)]
                exact ih
            | some p =>
                rw [List.filterMap_cons_some (by rw [inner']; rfl),
                  List.filter_cons_of_neg (by simpa [prune] using named)]
                exact ih

/-! ## Qualifiers and declarations of a pruned tree -/

@[simp] theorem prune_tag (place : Place) (e : Element) : (prune place e).1 = e.1 := rfl

theorem lastNamed_prune {place inner : Place} {name : String}
    (read : place.child? name = some inner) (e : Element) :
    (elementsNamed name (prune place e).2).getLast? =
      (elementsNamed name e.2).getLast?.map (prune inner) := by
  rw [elementsNamed_prune read, List.getLast?_map]

theorem entryTypeOf_prune (e : Element) : entryTypeOf (prune .field e).2 = entryTypeOf e.2 := by
  rw [entryTypeOf, lastNamed_prune rfl, entryTypeOf]
  cases (elementsNamed "entry" e.2).getLast? <;> rfl

theorem nullableOf_prune (e : Element) : nullableOf (prune .field e).2 = nullableOf e.2 := by
  rw [nullableOf, lastNamed_prune rfl, nullableOf]
  cases (elementsNamed "quality" e.2).getLast? <;> rfl

theorem fieldOf_prune (e : Element) : fieldOf (prune .field e) = fieldOf e := by
  rw [fieldOf, entryTypeOf_prune, nullableOf_prune, elementsNamed_prune rfl, List.isEmpty_map]
  rfl

theorem attributeOf_prune (e : Element) : attributeOf (prune .field e) = attributeOf e := by
  rw [attributeOf, entryTypeOf_prune, nullableOf_prune]
  rfl

theorem fieldsOf_prune (e : Element) : fieldsOf (prune .record e).2 = fieldsOf e.2 := by
  rw [fieldsOf, elementsNamed_prune rfl, List.map_map]
  exact List.map_congr_left fun field _ => fieldOf_prune field

theorem structOf_prune (e : Element) : structOf (prune .record e) = structOf e := by
  rw [structOf, fieldsOf_prune]
  rfl

theorem declaredOf_prune (e : Element) : declaredOf (prune .record e) = declaredOf e := by
  rw [declaredOf, fieldsOf_prune]
  rfl

theorem eventOf_prune (e : Element) : eventOf (prune .record e) = eventOf e := by
  rw [eventOf, fieldsOf_prune]
  rfl

theorem enumOf_prune (e : Element) : enumOf (prune .enum e) = enumOf e := by
  rw [enumOf, elementsNamed_prune rfl, List.map_map]
  rfl

theorem bitmapOf_prune (e : Element) : bitmapOf (prune .bitmap e) = bitmapOf e := by
  rw [bitmapOf, elementsNamed_prune rfl, List.filterMap_map]
  rfl

/-! ## Sections of a pruned tree -/

theorem sectionsNamed_prune {name : String} {inner : Place}
    (read : Place.cluster.child? name = some inner) (root : Element) :
    sectionsNamed name (prune .cluster root) = (sectionsNamed name root).map (prune inner) := by
  rw [sectionsNamed, elementsNamed_prune read, List.filter_map, sectionsNamed]
  congr 2
  funext e
  exact Option.isSome_map

theorem dataTypesNamed_prune {name : String} {inner : Place}
    (read : Place.dataTypes.child? name = some inner) (root : Element) :
    dataTypesNamed name (prune .cluster root) = (dataTypesNamed name root).map (prune inner) := by
  rw [dataTypesNamed, sectionsNamed_prune rfl, List.flatMap_map, dataTypesNamed, List.map_flatMap]
  exact List.flatMap_congr fun e _ => elementsNamed_prune read e

theorem declaredIn_prune (e : Element) : declaredIn (prune .commands e) = declaredIn e := by
  rw [declaredIn, elementsNamed_prune rfl, List.map_map]
  exact List.map_congr_left fun command _ => declaredOf_prune command

theorem clusterOf_prune (root : Element) : clusterOf (prune .cluster root) = clusterOf root := by
  -- A section that counts is read, so it is kept, and the last one stays the last.
  have attributes : (sectionsNamed "attributes" (prune .cluster root)).getLast? =
      (sectionsNamed "attributes" root).getLast?.map (prune .attributes) := by
    rw [sectionsNamed_prune rfl, List.getLast?_map]
  have events : (sectionsNamed "events" (prune .cluster root)).getLast? =
      (sectionsNamed "events" root).getLast?.map (prune .events) := by
    rw [sectionsNamed_prune rfl, List.getLast?_map]
  have ofAttributes (e : Element) :
      (elementsNamed "attribute" (prune .attributes e).2).map attributeOf =
        (elementsNamed "attribute" e.2).map attributeOf := by
    rw [elementsNamed_prune rfl, List.map_map]
    exact List.map_congr_left fun a _ => attributeOf_prune a
  have ofEvents (e : Element) : (elementsNamed "event" (prune .events e).2).map eventOf =
      (elementsNamed "event" e.2).map eventOf := by
    rw [elementsNamed_prune rfl, List.map_map]
    exact List.map_congr_left fun event _ => eventOf_prune event
  simp only [clusterOf, attributes, events]
  rw [dataTypesNamed_prune rfl, dataTypesNamed_prune rfl, dataTypesNamed_prune rfl,
    sectionsNamed_prune rfl]
  simp only [List.foldl_map, List.flatMap_map, enumOf_prune, bitmapOf_prune, structOf_prune,
    declaredIn_prune, Option.elim_map, Function.comp_def, ofAttributes, ofEvents, prune_tag]

/-- The children of a place, each of which is read, if at all, for its field elements. -/
theorem flatMap_field_prune {place : Place} {name : String}
    (read : place.child? name = some .record) (e : Element) :
    (elementsNamed name (prune place e).2).flatMap (elementsNamed "field" ·.2) =
      ((elementsNamed name e.2).flatMap (elementsNamed "field" ·.2)).map (prune .field) := by
  rw [elementsNamed_prune read, List.flatMap_map, List.map_flatMap]
  exact List.flatMap_congr fun record _ => elementsNamed_prune rfl record

theorem fieldElementsIn_prune {inner : Place} {e : Element}
    (read : Place.cluster.child? e.1.name = some inner) :
    fieldElementsIn (prune inner e) = (fieldElementsIn e).map (prune .field) := by
  have absent : (prune inner e).2.isNone = e.2.isNone := Option.isNone_map
  rw [fieldElementsIn, fieldElementsIn, absent, prune_tag]
  split_ifs with _ dataTypes attributes commands events
  · rfl
  · rw [dataTypes] at read
    cases read
    exact flatMap_field_prune rfl e
  · rfl
  · rw [commands] at read
    cases read
    exact flatMap_field_prune rfl e
  · rw [events] at read
    cases read
    exact flatMap_field_prune rfl e
  · rfl

theorem fieldElementsIn_of_unread {e : Element} (unread : Place.cluster.child? e.1.name = none) :
    fieldElementsIn e = [] := by
  rw [fieldElementsIn]
  split_ifs with _ dataTypes attributes commands events
  · rfl
  · simp [dataTypes, Place.child?] at unread
  · rfl
  · simp [commands, Place.child?] at unread
  · simp [events, Place.child?] at unread
  · rfl

theorem fieldElements_prune (root : Element) :
    fieldElements (prune .cluster root) = (fieldElements root).map (prune .field) := by
  have children : childrenOf (prune .cluster root).2 = (childrenOf root.2).filterMap fun e =>
      (Place.cluster.child? e.1.name).map fun inner => prune inner e := by
    cases h : root.2 with
    | none => simp [prune, h, childrenOf, elementsOf]
    | some nodes =>
        simp only [prune, h]
        exact elementsOf_pruneAll _ _
  rw [fieldElements, children, fieldElements, List.map_flatMap]
  induction childrenOf root.2 with
  | nil => rfl
  | cons e rest ih =>
      rw [List.flatMap_cons]
      -- A child that is dropped has no field element that is read.
      cases read : Place.cluster.child? e.1.name with
      | none =>
          rw [List.filterMap_cons_none (by rw [read]; rfl), ih, fieldElementsIn_of_unread read]
          rfl
      | some inner =>
          rw [List.filterMap_cons_some (by rw [read]; rfl), List.flatMap_cons, ih,
            fieldElementsIn_prune read]

/-- Elements of other names with everything inside them, elements whose name counts in another place
only, and whatever is no element have no effect. -/
theorem reading_prune (root : Element) : reading (prune .cluster root) = reading root := by
  rw [reading, unlessUnusable, clusterOf_prune, fieldElements_prune, List.findSome?_map]
  rfl

/-! ## Texts -/

mutual

/-- The tags of a tree come from the events that deliver it. -/
theorem mem_events_of_mem_tags {tag : Tag} (node : Node) (inside : tag ∈ node.tags) :
    ∃ e ∈ node.events, e.tag? = some tag := by
  match node with
  | .other => cases inside
  | .element own none =>
      rw [Node.tags] at inside
      cases List.mem_singleton.1 inside
      exact ⟨.empty tag, by rw [Node.events]; exact List.mem_singleton_self _, rfl⟩
  | .element own (some body) =>
      rw [Node.tags] at inside
      rw [Node.events]
      rcases List.mem_cons.1 inside with rfl | within
      · exact ⟨.start tag, List.mem_cons_self, rfl⟩
      · rcases mem_eventsOf_of_mem_tagsOf body within with ⟨e, delivered, same⟩
        exact ⟨e, List.mem_cons_of_mem _ (List.mem_append_left _ delivered), same⟩

theorem mem_eventsOf_of_mem_tagsOf {tag : Tag} (nodes : List Node) (inside : tag ∈ tagsOf nodes) :
    ∃ e ∈ eventsOf nodes, e.tag? = some tag := by
  match nodes with
  | [] => cases inside
  | node :: nodes =>
      rw [tagsOf] at inside
      rw [eventsOf]
      rcases List.mem_append.1 inside with first | later
      · rcases mem_events_of_mem_tags node first with ⟨e, delivered, same⟩
        exact ⟨e, List.mem_append_left _ delivered, same⟩
      · rcases mem_eventsOf_of_mem_tagsOf nodes later with ⟨e, delivered, same⟩
        exact ⟨e, List.mem_append_right _ delivered, same⟩

end

/-- What stands before the root has no effect. -/
theorem readRoot_append {fault : Option Fault} {before : List Xml.Event}
    (lead : ∀ e ∈ before, e = .other) (es : List Xml.Event) :
    readRoot fault (before ++ es) = readRoot fault es := by
  induction before with
  | nil => rfl
  | cons e before ih =>
      cases lead e List.mem_cons_self
      exact ih fun e inside => lead e (List.mem_cons_of_mem _ inside)

/-- The events of a tree, and whatever follows them, are read as the tree. -/
theorem readRoot_events {fault : Option Fault} (tag : Tag) (body : Option (List Node))
    (after : List Xml.Event) :
    readRoot fault ((Node.element tag body).events ++ after) = clusterIn (tag, body) := by
  cases body with
  | none =>
      rw [Node.events]
      exact readRoot_empty tag after
  | some nodes =>
      have inside := bodyOf_eventsOf nodes after
      rcases Option.map_eq_some_iff.1 inside.2 with ⟨rest, closed, -⟩
      have events : (Node.element tag (some nodes)).events ++ after =
          .start tag :: (eventsOf nodes ++ .close :: after) := by
        rw [Node.events]
        simp
      rw [events, readRoot_start, inside.1, restAfter, closed]
      cases clusterIn (tag, some nodes) <;> rfl

theorem invalidAttribute_iff (root : Element) :
    (∃ element key value, reading root = .error (.invalidAttribute element key value)) ↔
      ∃ field ∈ fieldElements root, ∃ id, value? field.1 "id" = some id ∧
        Text.Numeral.readBelow 8 id = none := by
  unfold reading unlessUnusable
  cases first : (fieldElements root).findSome? unusableId? with
  | some id =>
      refine iff_of_true ⟨_, _, _, rfl⟩ ?_
      rcases List.exists_of_findSome?_eq_some first with ⟨field, read, unusable⟩
      rcases Option.filter_eq_some_iff.1 unusable with ⟨declared, notRead⟩
      exact ⟨field, read, id, declared, Option.isNone_iff_eq_none.1 notRead⟩
  | none =>
      refine iff_of_false (by rintro ⟨_, _, _, ⟨⟩⟩) ?_
      rintro ⟨field, read, id, declared, notRead⟩
      have usable := List.findSome?_eq_none_iff.1 first field read
      rw [unusableId?, declared, Option.filter_some, notRead] at usable
      cases usable

end Reading

open Reading Xml

/-- A struct with a field, and a field element where none is read. -/
def pairText : String :=
  "<!-- Pairs --><cluster id=\"0x0007\" name=\"Pair\"><classification><field id=\"?\"/>" ++
    "</classification><dataTypes> <struct name=\"PairStruct\"><field id=\"1\" name=\"Left\">" ++
    "<quality nullable=\"true\"/></field></struct></dataTypes></cluster>"

def pairTag : Tag := ⟨"cluster", [("id", "0x0007"), ("name", "Pair")]⟩

def pairBody : List Node :=
  [.element ⟨"classification", []⟩ (some [.element ⟨"field", [("id", "?")]⟩ none]),
    .element ⟨"dataTypes", []⟩ (some [.other, .element ⟨"struct", [("name", "PairStruct")]⟩ (some
      [.element ⟨"field", [("id", "1"), ("name", "Left")]⟩
        (some [.element ⟨"quality", [("nullable", "true")]⟩ none])])])]

end ClusterCodec

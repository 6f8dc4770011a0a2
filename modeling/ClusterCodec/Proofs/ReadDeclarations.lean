import ClusterCodec.Proofs.StructuralReading

/-!
# ReadDeclarations — the type declarations of a document come from its elements

- `Ensures`: every value that a reader may give has a property.
- `eq_enumOf`, `eq_bitmapOf`: an enum or a bitmap that is read is the one that its element declares.
- `tableFrom`: a table with the declarations of some elements, read in their order;
  `exists_readFrom`: each entry of it is read from the last one of the elements for its name.
- `Declares`: the elements of each kind are read into the table of that kind; `ensures_addDataType`,
  `ensures_addSection`: a child brings the declarations in it.
- `FromElements`: the type declarations of a cluster are those in the sections of a root.
- `Cluster.fromElements_ofText`: so it is for every text that is read, whole or cut, and its root.
-/

namespace ClusterCodec
namespace Reading

open Xml

/-! ## Properties of what is read -/

/-- If there is a value, it has the property. -/
def Ensures {ε α : Type} (p : α → Prop) (read : Except ε α) : Prop :=
  ∀ a, read = .ok a → p a

namespace Ensures

variable {ε α β : Type} {p : α → Prop} {q : β → Prop} {read : Except ε α}

theorem ok {a : α} (holds : p a) : Ensures p (.ok a : Except ε α) := by
  intro b same
  cases same
  exact holds

theorem any (read : Except ε α) : Ensures (fun _ => True) read :=
  fun _ _ => trivial

/-- What is known of a value is what it was read from. -/
theorem source (read : Except ε α) : Ensures (fun a => read = .ok a) read :=
  fun _ same => same

theorem bind {next : α → Except ε β} (first : Ensures p read)
    (each : ∀ a, p a → Ensures q (next a)) : Ensures q (read >>= next) := by
  cases read with
  | error e =>
      intro b same
      cases same
  | ok a => exact each a (first a rfl)

theorem map {f : α → β} (first : Ensures p read) (each : ∀ a, p a → q (f a)) :
    Ensures q (read.map f) :=
  first.bind fun a holds => ok (each a holds)

/-- What each step keeps of the elements it has gone through holds of the whole list. -/
theorem foldlM_along {step : β → α → Except ε β} {along : List α → β → Prop} {l : List α} {s : β}
    (start : along [] s)
    (keeps : ∀ done s a, along done s → Ensures (along (done ++ [a])) (step s a)) :
    Ensures (along l) (l.foldlM step s) := by
  -- The elements that are done are general, since each step adds one.
  suffices anywhere : ∀ done s, along done s → Ensures (along (done ++ l)) (l.foldlM step s) from
    anywhere [] s start
  clear start
  induction l with
  | nil =>
      intro done s holds
      rw [List.append_nil]
      exact ok holds
  | cons a l ih =>
      intro done s holds
      rw [List.foldlM_cons, List.append_cons]
      exact (keeps done s a holds).bind fun t next => ih _ t next

/-- Going through the children with a name, where each step that succeeds does what `total` does. -/
theorem foldlM_named {σ : Type} {step : σ → Tag → Except ReadError σ} {total : σ → Element → σ}
    {name : String} (steps : ∀ s child, Ensures (· = total s child) (step s child.1))
    (children : List Element) (s : σ) :
    Ensures (· = (children.filter (·.1.name == name)).foldl total s)
      (children.foldlM (fun s child =>
        if child.1.name = name then step s child.1 else .ok s) s) := by
  induction children generalizing s with
  | nil => exact ok rfl
  | cons child children ih =>
      rw [List.foldlM_cons]
      by_cases named : child.1.name = name
      · rw [if_pos named, List.filter_cons_of_pos (by simpa using named)]
        exact (steps s child).bind fun t same => same ▸ ih _
      · -- A child with another name leaves the state as it is.
        rw [if_neg named, List.filter_cons_of_neg (by simpa using named)]
        exact ih s

end Ensures

/-! ## Declarations that are read -/

/-- An item that is read is put behind the others. -/
theorem ensures_addItem (d : EnumDecl) (child : Element) :
    Ensures (· = { d with items := d.items ++ [itemOf child] }) (addItem d child.1) := by
  unfold addItem itemOf
  refine (Ensures.source _).bind fun value read => (Ensures.source _).bind fun name named => ?_
  refine (Ensures.source _).bind fun summary given => ?_
  rw [value?_of_attribute? read, value?_of_attribute? given, declaredName_of_nameOf named]
  exact .ok rfl

/-- A flag that is read is put behind the others, and one without a usable position is passed. -/
theorem ensures_addFlag (b : BitmapDecl) (child : Element) :
    Ensures (· = { b with flags := b.flags ++ (flagOf child).toList }) (addFlag b child.1) := by
  unfold addFlag flagOf
  refine (Ensures.source _).bind fun bit read => ?_
  rw [value?_of_attribute? read]
  cases bit.bind (Text.Numeral.readBelow 32) with
  | none => exact .ok (congrArg (BitmapDecl.mk b.name · b.keepSuffix) (List.append_nil _).symm)
  | some n =>
      refine (Ensures.source _).bind fun name named => ?_
      refine (Ensures.source _).bind fun summary given => ?_
      rw [value?_of_attribute? given, declaredName_of_nameOf named]
      exact .ok rfl

/-- An enum that is read is the one that its element declares, whatever else is in the document. -/
theorem eq_enumOf {e : Element} {d : EnumDecl} (read : enumIn e = .ok d) : d = enumOf e := by
  have declared : Ensures (· = enumOf e) (enumIn e) := by
    refine (Ensures.source _).bind fun name named => ?_
    rw [enumOf, declaredName_of_nameOf named]
    exact fun d read => (Ensures.foldlM_named ensures_addItem _ _ d read).trans (foldl_itemOf _ _)
  exact declared d read

/-- So it is with a bitmap. -/
theorem eq_bitmapOf {e : Element} {b : BitmapDecl} (read : bitmapIn e = .ok b) :
    b = bitmapOf e := by
  have declared : Ensures (· = bitmapOf e) (bitmapIn e) := by
    refine (Ensures.source _).bind fun name named => ?_
    rw [bitmapOf, declaredName_of_nameOf named]
    exact fun b read => (Ensures.foldlM_named ensures_addFlag _ _ b read).trans (foldl_flagOf _ _)
  exact declared b read

/-! ## Tables of what is read -/

section Tables

variable {α : Type} [Named α] {of : Element → Except ReadError α} {es : List Element}

/-- What becomes of a table when the declarations of some elements are put into it in order. -/
def tableFrom (of : Element → Except ReadError α) (t : SymbolTable α) (es : List Element) :
    Except ReadError (SymbolTable α) :=
  es.foldlM (fun t e => (of e).map t.insert) t

theorem tableFrom_append {t u v : SymbolTable α} {others : List Element}
    (first : tableFrom of t es = .ok u) (second : tableFrom of u others = .ok v) :
    tableFrom of t (es ++ others) = .ok v := by
  rw [tableFrom, List.foldlM_append]
  change (tableFrom of t es >>= _) = _
  rw [first]
  exact second

theorem tableFrom_singleton {t : SymbolTable α} {e : Element} {a : α} (read : of e = .ok a) :
    tableFrom of t [e] = .ok (t.insert a) := by
  rw [tableFrom, List.foldlM_cons, read]
  rfl

/-- A declaration is read from one of some elements, and those behind it declare other names. -/
def ReadFrom (of : Element → Except ReadError α) (es : List Element) (e : Element) (a : α) : Prop :=
  ∃ before after, es = before ++ e :: after ∧ of e = .ok a ∧
    ∀ later ∈ after, ∃ b, of later = .ok b ∧ Named.name b ≠ Named.name a

theorem ReadFrom.read {e : Element} {a : α} (h : ReadFrom of es e a) : of e = .ok a := by
  rcases h with ⟨before, after, -, own, -⟩
  exact own

theorem ReadFrom.concat {e last : Element} {a b : α} (h : ReadFrom of es e a)
    (read : of last = .ok b) (other : Named.name b ≠ Named.name a) :
    ReadFrom of (es ++ [last]) e a := by
  rcases h with ⟨before, after, rfl, own, others⟩
  refine ⟨before, after ++ [last], by simp, own, fun later listed => ?_⟩
  rcases List.mem_append.1 listed with listed | listed
  · exact others later listed
  · cases List.mem_singleton.1 listed
    exact ⟨b, read, other⟩

/-- Each entry of a table has an element that it is read from. -/
theorem exists_readFrom {t : SymbolTable α} (table : tableFrom of ∅ es = .ok t) {a : α}
    (listed : a ∈ t.toList) : ∃ e, ReadFrom of es e a := by
  -- Behind each element every entry has one among those that are done.
  let Along (done : List Element) (t : SymbolTable α) : Prop :=
    ∀ a ∈ t.toList, ∃ e, ReadFrom of done e a
  have start : Along [] ∅ := fun a none => nomatch none
  have along : Ensures (Along es) (tableFrom of ∅ es) := by
    refine .foldlM_along start fun done t e known => ?_
    refine (Ensures.source (of e)).map fun b read a listed => ?_
    -- An entry is the one that is inserted here, or an earlier one with another name.
    rcases SymbolTable.mem_toList_insert.1 listed with rfl | ⟨earlier, other⟩
    · exact ⟨e, done, [], rfl, read, nofun⟩
    · rcases known a earlier with ⟨own, h⟩
      exact ⟨own, h.concat read other.symm⟩
  exact along t table a listed

end Tables

/-! ## The cluster -/

/-- The elements of each kind are read into the table of that kind. -/
structure Declares (elements : String → List Element) (c c' : Cluster) : Prop where
  enums : tableFrom enumIn c.enums (elements "enum") = .ok c'.enums
  bitmaps : tableFrom bitmapIn c.bitmaps (elements "bitmap") = .ok c'.bitmaps
  structs : tableFrom structIn c.structs (elements "struct") = .ok c'.structs

namespace Declares

variable {f g : String → List Element} {c c' c'' : Cluster}

theorem of_same (enums : c'.enums = c.enums) (bitmaps : c'.bitmaps = c.bitmaps)
    (structs : c'.structs = c.structs) : Declares (fun _ => []) c c' :=
  ⟨congrArg Except.ok enums.symm, congrArg Except.ok bitmaps.symm, congrArg Except.ok structs.symm⟩

theorem append (first : Declares f c c') (second : Declares g c' c'') :
    Declares (fun name => f name ++ g name) c c'' where
  enums := tableFrom_append first.enums second.enums
  bitmaps := tableFrom_append first.bitmaps second.bitmaps
  structs := tableFrom_append first.structs second.structs

/-- What each step brings for its element, the whole run brings for all of them, in order. -/
theorem foldlM {step : Cluster → Element → Except ReadError Cluster}
    {of : String → Element → List Element}
    (each : ∀ c e, Ensures (Declares (of · e) c) (step c e)) (es : List Element) (c : Cluster) :
    Ensures (Declares (fun name => es.flatMap (of name)) c) (es.foldlM step c) := by
  -- Behind each element the cluster has what the elements that are done have brought.
  let Along (done : List Element) (c' : Cluster) : Prop :=
    Declares (fun name => done.flatMap (of name)) c c'
  refine @Ensures.foldlM_along _ _ _ _ Along _ _ (of_same rfl rfl rfl) ?_
  intro done c' e before c'' steps
  have both := before.append (each c' e c'' steps)
  simpa [Along, List.flatMap_append] using both

end Declares

/-- A child of a section brings its own declaration, if its name is one of the kinds. -/
theorem ensures_addDataType (c : Cluster) (e : Element) :
    Ensures (Declares (fun name => if e.1.name = name then [e] else []) c) (addDataType c e) := by
  unfold addDataType
  split_ifs with enum bitmap struct
  · refine (Ensures.source (enumIn e)).map fun d read => ?_
    rw [enum]
    exact ⟨tableFrom_singleton read, rfl, rfl⟩
  · refine (Ensures.source (bitmapIn e)).map fun d read => ?_
    rw [bitmap]
    exact ⟨rfl, tableFrom_singleton read, rfl⟩
  · refine (Ensures.source (structIn e)).map fun d read => ?_
    rw [struct]
    exact ⟨rfl, rfl, tableFrom_singleton read⟩
  · refine .ok ⟨?_, ?_, ?_⟩
    · rw [if_neg enum]
      rfl
    · rw [if_neg bitmap]
      rfl
    · rw [if_neg struct]
      rfl

/-- The declarations of a kind in a section. -/
def dataTypesIn (name : String) (e : Element) : List Element :=
  if e.1.name = "dataTypes" then elementsNamed name e.2 else []

/-- A section brings the declarations among its children, if it is one of data types. -/
theorem ensures_addSection (c : Cluster) (e : Element) :
    Ensures (Declares (dataTypesIn · e) c) (addSection c e) := by
  -- The sections of attributes, commands and events leave the type declarations as they are.
  have others (named : e.1.name ≠ "dataTypes") {α : Type} {read : Except ReadError α}
      {add : α → Cluster} (enums : ∀ a, (add a).enums = c.enums)
      (bitmaps : ∀ a, (add a).bitmaps = c.bitmaps) (structs : ∀ a, (add a).structs = c.structs) :
      Ensures (Declares (dataTypesIn · e) c) (read.map add) := by
    simp only [dataTypesIn, if_neg named]
    exact (Ensures.any _).map fun a _ => .of_same (enums a) (bitmaps a) (structs a)
  unfold addSection
  split_ifs with absent dataTypes attributes commands events
  · -- In a section without a body there are no elements.
    have inside (name : String) : dataTypesIn name e = [] := by
      rw [dataTypesIn, Option.isNone_iff_eq_none.1 absent, elementsNamed_none, ite_self]
    simp only [inside]
    exact .ok (.of_same rfl rfl rfl)
  · have inside := Declares.foldlM ensures_addDataType (childrenOf e.2) c
    simpa only [dataTypesIn, if_pos dataTypes, flatMap_named fun e => [e],
      List.flatMap_singleton'] using inside
  · exact others dataTypes (fun _ => rfl) (fun _ => rfl) fun _ => rfl
  · exact others dataTypes (fun _ => rfl) (fun _ => rfl) fun _ => rfl
  · exact others dataTypes (fun _ => rfl) (fun _ => rfl) fun _ => rfl
  · simp only [dataTypesIn, if_neg dataTypes]
    exact .ok (.of_same rfl rfl rfl)

/-- The type declarations of a cluster are read from the elements of their kinds in the data type
sections of a root, in order. -/
structure FromElements (root : Element) (c : Cluster) : Prop where
  enums : tableFrom enumIn ∅ (dataTypesNamed "enum" root) = .ok c.enums
  bitmaps : tableFrom bitmapIn ∅ (dataTypesNamed "bitmap" root) = .ok c.bitmaps
  structs : tableFrom structIn ∅ (dataTypesNamed "struct" root) = .ok c.structs

/-- A section without a body has no declarations. -/
theorem dataTypesNamed_eq (name : String) (root : Element) :
    dataTypesNamed name root =
      (elementsNamed "dataTypes" root.2).flatMap (elementsNamed name ·.2) := by
  rw [dataTypesNamed, sectionsNamed]
  induction elementsNamed "dataTypes" root.2 with
  | nil => rfl
  | cons e es ih =>
      rcases e with ⟨tag, body⟩
      cases body with
      | none => exact ih
      | some nodes => exact congrArg (elementsNamed name (some nodes) ++ ·) ih

theorem ensures_clusterIn (root : Element) : Ensures (FromElements root) (clusterIn root) := by
  have header : Ensures (fun c => c.enums = ∅ ∧ c.bitmaps = ∅ ∧ c.structs = ∅)
      (headerTag root.1) :=
    (Ensures.any _).bind fun texts _ => .ok ⟨rfl, rfl, rfl⟩
  -- The tables are empty in front of the first section, so all entries come from the sections.
  refine header.bind fun start ⟨enums, bitmaps, structs⟩ c reads => ?_
  have declares := Declares.foldlM ensures_addSection (childrenOf root.2) start c reads
  have sections (name : String) :
      (childrenOf root.2).flatMap (dataTypesIn name) = dataTypesNamed name root :=
    (flatMap_named _).trans (dataTypesNamed_eq name root).symm
  simp only [sections] at declares
  exact ⟨enums ▸ declares.enums, bitmaps ▸ declares.bitmaps, structs ▸ declares.structs⟩

theorem ensures_readRoot (fault : Option Fault) (es : List Xml.Event) :
    Ensures (fun c => ∃ root, rootOf es = some root ∧ FromElements root c) (readRoot fault es) := by
  induction es with
  | nil => cases fault <;> exact fun c reads => nomatch reads
  | cons e es ih =>
      cases e with
      | close => exact ih
      | other => exact ih
      | empty tag =>
          rw [readRoot_empty]
          exact fun c reads => ⟨_, rfl, ensures_clusterIn _ c reads⟩
      | start tag =>
          rw [readRoot_start]
          exact (ensures_clusterIn _).bind fun c known =>
            (Ensures.any _).bind fun rest _ => .ok ⟨_, rfl, known⟩

end Reading

theorem Cluster.fromElements_ofText {text : String} {c : Cluster}
    (reads : Cluster.ofText text = .ok c) :
    ∃ root, Reading.rootOf (Xml.Stream.ofText text).events = some root ∧
      Reading.FromElements root c :=
  Reading.ensures_readRoot _ _ c reads

end ClusterCodec

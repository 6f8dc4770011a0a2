import ClusterCodec.Proofs.AttributeArms
import ClusterCodec.Proofs.ConversionCalls
import ClusterCodec.Proofs.EmittedDefinitions
import ClusterCodec.Proofs.KeptFields
import ClusterCodec.Proofs.StringLiterals

/-!
# QuotedTexts — the texts of a document that a module quotes

The default of a text or octet-string parameter and the name of an attribute may be any text.  Both are
quoted deep inside code that is indented several times.

- `Leaf.fromLiteral?`, `defaultLiteral?_eq_some_iff`: the literal for a default.
- `Resolved.WritesText`: the places where a module quotes a text, with what stands around it.
- `infix_source_of_writesText`: indentation and what surrounds the place leave it as it is.
- `Resolved.quoted_texts_stand`: every quoted text stands for itself, and in its place it is one token.
-/

namespace ClusterCodec

open Text Lexical

/-! ## Defaults -/

/-- How a string literal becomes a value of the leaf. -/
def Leaf.fromLiteral? : Leaf → Option String
  | .string => some ".to_string()"
  | .bytes => some ".as_bytes().to_vec()"
  | _ => none

/-- Texts and octet strings are the leaves that have quoted defaults. -/
theorem eq_of_fromLiteral? {l : Leaf} {conversion : String}
    (converts : l.fromLiteral? = some conversion) :
    l = .string ∧ conversion = ".to_string()" ∨ l = .bytes ∧ conversion = ".as_bytes().to_vec()" := by
  unfold Leaf.fromLiteral? at converts
  split at converts
  · cases converts
    exact .inl ⟨rfl, rfl⟩
  · cases converts
    exact .inr ⟨rfl, rfl⟩
  · cases converts

/-- A default with something in it that is no word for zero. -/
def IsTextDefault (text : String) : Prop :=
  trim text ≠ "" ∧ asciiLowered (trim text) ∉ zeroWords

instance (text : String) : Decidable (IsTextDefault text) :=
  inferInstanceAs (Decidable (_ ∧ _))

theorem declaredDefault?_eq_some_iff {text raw : String} :
    declaredDefault? (some text) = some raw ↔ IsTextDefault text ∧ raw = trim text := by
  unfold declaredDefault? IsTextDefault
  rw [Option.map_some, Option.filter_eq_some_iff]
  constructor
  · rintro ⟨same, kept⟩
    cases same
    simpa using kept
  · rintro ⟨kept, rfl⟩
    exact ⟨rfl, by simpa using kept⟩

/-- The default of a text is quoted without the blanks around it. -/
theorem defaultLiteral?_eq_some_iff {l : Leaf} {conversion text literal : String}
    (converts : l.fromLiteral? = some conversion) :
    l.defaultLiteral? (some text) = some literal ↔
      IsTextDefault text ∧ literal = Quoted.quote (trim text) ++ conversion := by
  have written : l.defaultLiteral? (some text) = (declaredDefault? (some text)).bind fun raw =>
      some (Quoted.quote raw ++ conversion) := by
    rcases eq_of_fromLiteral? converts with ⟨rfl, rfl⟩ | ⟨rfl, rfl⟩
    · rfl
    · rfl
  rw [written, Option.bind_eq_some_iff]
  constructor
  · rintro ⟨raw, declared, same⟩
    obtain ⟨kept, rfl⟩ := declaredDefault?_eq_some_iff.1 declared
    exact ⟨kept, (Option.some.inj same).symm⟩
  · rintro ⟨kept, rfl⟩
    exact ⟨_, declaredDefault?_eq_some_iff.2 ⟨kept, rfl⟩, rfl⟩

/-- An optional text is encoded with the literal behind its name. -/
theorem exists_encodeOr_eq {l : Leaf} {conversion : String}
    (converts : l.fromLiteral? = some conversion) (source literal : String) :
    ∃ kind, l.encodeOr source (some literal) =
      encodedText kind (source ++ ".unwrap_or_else(|| " ++ literal ++ ")") := by
  rcases eq_of_fromLiteral? converts with ⟨rfl, rfl⟩ | ⟨rfl, rfl⟩
  · exact ⟨WireTag.string.text, rfl⟩
  · exact ⟨WireTag.octetString.text, rfl⟩

/-! ## Pieces of emitted code -/

section Infix

variable {part : List Char}

theorem infix_encodedText (kind : String) {argument : String} (inside : part <:+: argument.toList) :
    part <:+: (encodedText kind argument).toList :=
  infix_append_left ")" (infix_append_right _ inside)

theorem infix_join {texts : List String} {text : String} (listed : text ∈ texts)
    (inside : part <:+: text.toList) : part <:+: (String.join texts).toList := by
  obtain ⟨front, back, joined⟩ := exists_join_eq_of_mem listed
  rw [joined]
  exact infix_append_left back (infix_append_right front inside)

theorem infix_publicFunction (unbroken : '\n' ∉ part) (nonempty : part ≠ []) (signature : String)
    {body : String} (inside : part <:+: body.toList) :
    part <:+: (publicFunction signature body).toList :=
  infix_append_left "\n" (infix_block unbroken nonempty _ inside)

/-- The parameters of a command stand in a vector, which stands in two blocks. -/
theorem infix_commandEncoder (unbroken : '\n' ∉ part) (nonempty : part ≠ []) {e : CommandEncoder}
    {p : CommandParam} (listed : p ∈ e.params) (inside : part <:+: p.encoded.text.toList) :
    part <:+: e.text.toList := by
  have param : part <:+: p.text.toList := by
    rw [CommandParam.text]
    exact infix_append_left _ (infix_append_right _ inside)
  have params : part <:+: (String.join (e.params.map CommandParam.text)).toList :=
    infix_join (List.mem_map_of_mem listed) param
  have vector : part <:+:
      ("vec![\n" ++ indent 1 (String.join (e.params.map CommandParam.text)) ++ "]").toList :=
    infix_append_left "]" (infix_append_right "vec![\n" (infix_indent unbroken nonempty 1 params))
  have body : part <:+: e.body.toList := by
    rw [CommandEncoder.body]
    exact infix_append_left _ (infix_block unbroken nonempty _
      (infix_append_left _ (infix_append_right _ (infix_encodedText _ vector))))
  -- The type for the parameters and the documentation stand in front of the function.
  rw [CommandEncoder.text]
  exact infix_append_right _ (infix_publicFunction unbroken nonempty _ body)

theorem infix_attributeList (unbroken : '\n' ∉ part) (nonempty : part ≠ []) {attrs : List Attribute}
    {id : UInt32} {a : Attribute} (listed : (id, a) ∈ numberedAttributes attrs)
    (inside : part <:+: ("(" ++ idText id ++ ", " ++ Quoted.quote a.name ++ "),\n").toList) :
    part <:+: (attributeListText attrs).toList := by
  rw [attributeListText]
  apply infix_append_right
  apply infix_publicFunction unbroken nonempty
  apply infix_append_left
  apply infix_append_right
  apply infix_indent unbroken nonempty
  exact infix_join (List.mem_map.2 ⟨(id, a), listed, rfl⟩) inside

end Infix

namespace Resolved

variable {r : Resolved} {s : Settings}

/-! ## Places -/

/-- The module has the text as a string literal, with something before and behind it. -/
inductive WritesText (r : Resolved) (s : Settings) : String → String → String → Prop where
  /-- An absent parameter of an emitted command has its declared default. -/
  | parameter {c : Command} {d : Definition r} {m : Member r} {l : Leaf} {conversion text : String} :
      (.command c, .emitted d) ∈ r.outcomes s → m ∈ r.members none c.fields →
      m.field.nullable = true → m.field.isList = false → m.shape = .leaf l →
      l.fromLiteral? = some conversion → m.field.defaultText = some text → IsTextDefault text →
        WritesText r s (m.ident ++ ".unwrap_or_else(|| ") (trim text) (conversion ++ ")")
  /-- The list of attributes has the name of the first attribute of each id. -/
  | listed {id : UInt32} {a : Attribute} :
      (id, a) ∈ numberedAttributes r.cluster.attributes →
        WritesText r s ("(" ++ idText id ++ ", ") a.name "),"

theorem infix_source {p : Piece r} (listed : p ∈ r.pieces s) {part : List Char}
    (inside : part <:+: (p.text s).toList) (file : String) :
    part <:+: (r.source s file).toList := by
  obtain ⟨front, back, source⟩ := exists_source_eq_of_mem_pieces r s listed file
  rw [source]
  exact infix_append_left back (infix_append_right front inside)

/-- The parameter of a text with a default. -/
theorem infix_param {m : Member r} {l : Leaf} {conversion text : String} (access : String)
    (nullable : m.field.nullable = true) (single : m.field.isList = false)
    (shape : m.shape = .leaf l) (converts : l.fromLiteral? = some conversion)
    (declared : m.field.defaultText = some text) (kept : IsTextDefault text) :
    (m.ident ++ ".unwrap_or_else(|| " ++ Quoted.quote (trim text) ++ (conversion ++ ")")).toList <:+:
      (r.commandParam access m).encoded.text.toList := by
  have literal := (defaultLiteral?_eq_some_iff converts).2 ⟨kept, rfl⟩
  have encoded : (r.commandParam access m).encoded.text =
      l.encodeOr (access ++ m.ident) (some (Quoted.quote (trim text) ++ conversion)) := by
    simp [commandParam, Parameter.of, nullable, single, shape, layout, declared, literal,
      Parameter.text]
  obtain ⟨kind, computed⟩ := exists_encodeOr_eq converts (access ++ m.ident)
    (Quoted.quote (trim text) ++ conversion)
  rw [encoded, computed]
  apply infix_encodedText kind
  -- Only the way to the parameters of the command stands in front.
  simpa [String.append_assoc] using
    infix_append_right access (List.infix_refl (m.ident ++ ".unwrap_or_else(|| " ++
      Quoted.quote (trim text) ++ (conversion ++ ")")).toList)

theorem mem_pieces_of_emitted {i : Item} {d : Definition r} (emitted : (i, .emitted d) ∈ r.outcomes s) :
    .item d ∈ r.pieces s :=
  perm_pieces.subset (List.mem_append_left _ (mem_flatMap_itemPieces_iff.2 ⟨i, d, emitted, rfl⟩))

theorem attributeList_mem_pieces (attributes : r.cluster.hasAttributes = true) :
    .attributeList ∈ r.pieces s := by
  have extra : .attributeList ∈ r.extraPieces .attr := by
    rw [extraPieces_of_hasAttributes attributes]
    exact .tail _ (.head _)
  exact perm_pieces.subset (List.mem_append_right _ extra)

theorem hasAttributes_of_mem {id : UInt32} {a : Attribute}
    (listed : (id, a) ∈ numberedAttributes r.cluster.attributes) :
    r.cluster.hasAttributes = true := by
  have found := mem_numberedAttributes_iff.1 listed
  have mem : a ∈ r.cluster.attributes := List.mem_of_find?_eq_some found
  simpa [Cluster.hasAttributes] using List.ne_nil_of_mem mem

/-- An emitted command has an encoder with a parameter for each kept field. -/
theorem exists_encoder_of_emitted {c : Command} {d : Definition r}
    (emitted : (.command c, .emitted d) ∈ r.outcomes s) :
    ∃ e access, d = .command e ∧ e.params = (r.members none c.fields).map (r.commandParam access) := by
  obtain ⟨before, outcome⟩ := outcome_of_mem emitted
  obtain ⟨defined, -⟩ := outcome_eq_emitted_iff.1 outcome.symm
  obtain ⟨e, encoder, rfl⟩ := Option.map_eq_some_iff.1 defined
  obtain ⟨-, same⟩ := Option.ite_none_left_eq_some.1 encoder
  cases same
  exact ⟨_, _, rfl, rfl⟩

/-- Where a text is quoted, the literal stands in the source text with what is around it. -/
theorem infix_source_of_writesText {front text behind : String}
    (writes : r.WritesText s front text behind) (file : String) :
    (front ++ Quoted.quote text ++ behind).toList <:+: (r.source s file).toList := by
  -- Code may be indented around the literal, but not inside it, as there is no line break in it.
  have quoted : '\n' ∉ (Quoted.quote text).toList := (Quoted.standsFor_quote text).break_notMem
  cases writes with
  | @parameter c d m l conversion text emitted kept nullable single shape converts declared isDefault =>
      have unbroken : '\n' ∉ (m.ident ++ ".unwrap_or_else(|| " ++ Quoted.quote (trim text) ++
          (conversion ++ ")")).toList := by
        have ident : '\n' ∉ m.ident.toList := fun inside =>
          absurd ((isWord_member m).parts _ inside) (by decide)
        have after : '\n' ∉ conversion.toList := by
          rcases eq_of_fromLiteral? converts with ⟨-, rfl⟩ | ⟨-, rfl⟩
          · decide
          · decide
        simp only [String.toList_append, List.mem_append, not_or]
        exact ⟨⟨⟨ident, by decide⟩, quoted⟩, after, by decide⟩
      obtain ⟨e, access, rfl, params⟩ := exists_encoder_of_emitted emitted
      have listed : r.commandParam access m ∈ e.params := by
        rw [params]
        exact List.mem_map_of_mem kept
      have inParam := infix_param access nullable single shape converts declared isDefault
      have inEncoder := infix_commandEncoder unbroken (by simp) listed inParam
      exact infix_source (mem_pieces_of_emitted emitted) inEncoder file
  | @listed id a listed =>
      have unbroken : '\n' ∉ ("(" ++ idText id ++ ", " ++ Quoted.quote a.name ++ "),").toList := by
        simp only [String.toList_append, List.mem_append, not_or]
        exact ⟨⟨⟨⟨by decide, break_notMem_idText id⟩, by decide⟩, quoted⟩, by decide⟩
      have inEntry : ("(" ++ idText id ++ ", " ++ Quoted.quote a.name ++ "),").toList <:+:
          ("(" ++ idText id ++ ", " ++ Quoted.quote a.name ++ "),\n").toList := by
        exact ⟨[], ['\n'], by simp⟩
      have inList := infix_attributeList unbroken (by simp) listed inEntry
      exact infix_source (attributeList_mem_pieces (hasAttributes_of_mem listed)) inList file

/-- What stands behind a literal begins with a point or a parenthesis, so it is no suffix of it. -/
theorem afterSuffix_behind {front text behind : String} (writes : r.WritesText s front text behind)
    (rest : List Char) : afterSuffix (behind.toList ++ rest) = behind.toList ++ rest := by
  have noSuffix {c : Char} (cs : List Char) (separator : c ∈ separatorsOrPoint) :
      afterSuffix (c :: cs) = c :: cs := by
    rw [afterSuffix, afterWord?, (not_continuesWord separator).2]
    rfl
  cases writes with
  | parameter _ _ _ _ _ converts _ _ =>
      rcases eq_of_fromLiteral? converts with ⟨-, rfl⟩ | ⟨-, rfl⟩
      · exact noSuffix _ (by decide)
      · exact noSuffix _ (by decide)
  | listed _ => exact noSuffix _ (by decide)

/-- Every quoted text stands for itself, and the default of a text or octet-string parameter is quoted
without the blanks around it. Where a module quotes a text, the literal is in the source text as it is,
and it is one token before what stands behind it. -/
theorem quoted_texts_stand (r : Resolved) (s : Settings) (file : String) :
    (∀ text, Quoted.StandsFor (Quoted.quote text) text) ∧
      (∀ l conversion text literal, Leaf.fromLiteral? l = some conversion →
        (l.defaultLiteral? (some text) = some literal ↔
          IsTextDefault text ∧ literal = Quoted.quote (trim text) ++ conversion)) ∧
      ∀ front text behind, r.WritesText s front text behind →
        (front ++ Quoted.quote text ++ behind).toList <:+: (r.source s file).toList ∧
          ∀ rest, step? ((Quoted.quote text).toList ++ (behind.toList ++ rest)) =
            some (.token, behind.toList ++ rest) := by
  refine ⟨Quoted.standsFor_quote, fun l conversion text literal => defaultLiteral?_eq_some_iff, ?_⟩
  intro front text behind writes
  refine ⟨infix_source_of_writesText writes file, fun rest => ?_⟩
  exact ((Quoted.standsFor_quote text).token _ (afterSuffix_behind writes rest)).2.2

/-- A parameter whose default has quotes, a backslash and a tab in it. -/
def greetingText : Field :=
  { id := 0, name := "Text", typeName := "string", defaultText := some " C:\\tmp\t\"x\"\n",
    nullable := true }

/-- An attribute whose name has quotes and a line break in it. -/
def sayHi : Field :=
  { id := 0, name := "Say \"hi\"\r\n", typeName := "string" }

def greeter : Resolved :=
  Cluster.resolve
    { id := 8
      idText := "0x0008"
      name := "Greeter"
      commands := [{ id := "0x00", name := "Greet", fields := [greetingText] }]
      attributes := [⟨"0", sayHi⟩] }

theorem quoted_texts_stand_greeter :
    greeter.WritesText {} "text.unwrap_or_else(|| " "C:\\tmp\t\"x\"" ".to_string())" ∧
      greeter.WritesText {} "(0x0000, " "Say \"hi\"\r\n" ")," ∧
      Leaf.fromLiteral? .string = some ".to_string()" ∧
      Leaf.defaultLiteral? .string greetingText.defaultText =
        some "\"C:\\\\tmp\\t\\\"x\\\"\".to_string()" ∧
      "text.unwrap_or_else(|| \"C:\\\\tmp\\t\\\"x\\\"\".to_string())".toList <:+:
        (greeter.source {} "Greeter.xml").toList ∧
      "(0x0000, \"Say \\\"hi\\\"\\r\\n\"),".toList <:+: (greeter.source {} "Greeter.xml").toList := by
  have shape : greeter.fieldShape none greetingText = .ok (.leaf .string) := by
    rfl
  have isDefault : IsTextDefault " C:\\tmp\t\"x\"\n" := by decide +kernel
  have trimmed : trim " C:\\tmp\t\"x\"\n" = "C:\\tmp\t\"x\"" := by decide +kernel
  have path : Quoted.quote "C:\\tmp\t\"x\"" = "\"C:\\\\tmp\\t\\\"x\\\"\"" := by decide +kernel
  have name : Quoted.quote "Say \"hi\"\r\n" = "\"Say \\\"hi\\\"\\r\\n\"" := by decide +kernel
  have ident : "text" = Member.ident (r := greeter) ⟨greetingText, .leaf .string⟩ := by
    decide +kernel
  have id : "(0x0000, " = "(" ++ idText 0 ++ ", " := by decide +kernel
  obtain ⟨d, emitted⟩ := emitted_of_isSome (r := greeter) (s := {})
    (i := .command { id := "0x00", name := "Greet", fields := [greetingText] }) (by decide +kernel)
  have parameter := WritesText.parameter emitted (mem_members_singleton shape) rfl rfl rfl rfl rfl
    isDefault
  rw [trimmed, ← ident] at parameter
  have listed : greeter.WritesText {} "(0x0000, " "Say \"hi\"\r\n" ")," := by
    rw [id]
    exact @WritesText.listed greeter {} 0 ⟨"0", sayHi⟩ (by decide +kernel)
  obtain ⟨-, literal, places⟩ := quoted_texts_stand greeter {} "Greeter.xml"
  have inParameter := (places _ _ _ parameter).1
  have inList := (places _ _ _ listed).1
  rw [path] at inParameter
  rw [name] at inList
  refine ⟨parameter, listed, rfl, ?_, inParameter, inList⟩
  exact (literal _ _ _ _ rfl).2 ⟨isDefault, by rw [trimmed, path]; rfl⟩

end Resolved
end ClusterCodec

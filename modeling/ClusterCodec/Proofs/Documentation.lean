import ClusterCodec.Proofs.CodeLines
import ClusterCodec.Proofs.SameTables
import Mathlib.Data.Option.Basic

/-!
# Documentation — items without the text that is only documentation

- `Cluster.undocumented`: the ids of commands, responses and events and the priorities of events
  are left blank.
- `Item.PlainDocs`: what stands in the documentation of an item has no line break and names no
  helper in quotes.
- `SameDefinition`: definitions of the same names with the same code.
- `samePiece_of_docLine`: the documentation line of a function may be exchanged.
- `definition?_undocumented`: without its documentation an item with plain documentation has the
  same code.
-/

namespace ClusterCodec

open Text

/-! ## Clusters without documentation -/

def Command.undocumented (c : Command) : Command :=
  { c with id := "" }

def Response.undocumented (p : Response) : Response :=
  { p with id := "" }

def Event.undocumented (e : Event) : Event :=
  { e with id := "", priority := "" }

def Item.undocumented : Item → Item
  | .command c => .command c.undocumented
  | .response p => .response p.undocumented
  | .event e => .event e.undocumented
  | other => other

/-- The cluster with the ids of commands, responses and events and the priorities of events left
blank. -/
def Cluster.undocumented (c : Cluster) : Cluster :=
  { c with
    commands := c.commands.map Command.undocumented
    responses := c.responses.map Response.undocumented
    events := c.events.map Event.undocumented }

/-- What stands in the documentation of an item with fields is harmless. -/
def Item.PlainDocs : Item → Prop
  | .command c => c.fields ≠ [] → '\n' ∉ c.name.toList ∧ Harmless c.id
  | .response p => p.fields ≠ [] → '\n' ∉ p.name.toList ∧ Harmless p.id
  | .event e => e.fields ≠ [] → '\n' ∉ e.name.toList ∧ Harmless e.id ∧ Harmless e.priority
  | _ => True

theorem harmless_empty : Harmless "" :=
  ⟨by decide, fun helper => by cases helper <;> decide⟩

namespace Resolved

variable (r : Resolved)

def undocumented : Resolved :=
  ⟨r.cluster.undocumented, r.recursiveEdges, r.edges_eq⟩

theorem sameTables_undocumented : SameTables r r.undocumented :=
  ⟨rfl, rfl, rfl⟩

theorem items_undocumented :
    r.undocumented.cluster.items = r.cluster.items.map Item.undocumented := by
  simp only [Cluster.items, List.map_append, List.map_map]
  simp only [undocumented, Cluster.undocumented, List.map_map]
  rfl

end Resolved

/-! ## Definitions -/

/-- Definitions of the same names with the same code. -/
structure SameDefinition {r r' : Resolved} (d : Definition r) (d' : Definition r') : Prop where
  typeNames : d.typeNames = d'.typeNames
  functionNames : d.functionNames = d'.functionNames
  piece : SamePiece d.text d'.text

/-- The documentation of a function may be exchanged. -/
theorem samePiece_of_docLine {before doc doc' after : String} (whole : WholeLines before)
    (same : SameCode (docLine doc) (docLine doc')) (ends : EndsLine after)
    (wired : occursIn wireMark after.toList = true) :
    SamePiece (before ++ docLine doc ++ after) (before ++ docLine doc' ++ after) := by
  have code : SameCode (before ++ docLine doc ++ after) (before ++ docLine doc' ++ after) :=
    ((SameCode.refl whole).append same).append (.refl (wholeLines_of_endsLine ends))
  refine { code with ends := ⟨ends.append _, ends.append _⟩, wire := ?_ }
  have first := whole.append (wholeLines_docLine doc)
  have second := whole.append (wholeLines_docLine doc')
  rw [occursIn_wireMark_append first, occursIn_wireMark_append second, wired, Bool.or_true,
    Bool.or_true]

theorem occursIn_append_self (front back : List Char) (target : List Char) :
    occursIn target (front ++ (target ++ back)) = true := by
  induction front with
  | nil =>
      cases target with
      | nil =>
          cases back <;> rfl
      | cons c target =>
          have prefixed : (c :: target).isPrefixOf (c :: target ++ back) = true :=
            List.isPrefixOf_iff_prefix.2 (List.prefix_append _ _)
          change ((c :: target).isPrefixOf (c :: target ++ back) || _) = true
          rw [prefixed, Bool.true_or]
  | cons c front ih =>
      change (target.isPrefixOf _ || occursIn target (front ++ (target ++ back))) = true
      rw [ih, Bool.or_true]

theorem wired_decoder (name argument result body : String) :
    occursIn wireMark (publicFunction (decoderSignature name argument result) body).toList =
      true := by
  have split : (publicFunction (decoderSignature name argument result) body).toList =
      ("pub fn " ++ name ++ "(" ++ argument ++ ": &").toList ++ (wireMark ++
        ("TlvItemValue) -> anyhow::Result<" ++ result ++ ">" ++ " \x7b\n" ++ indent 1 body ++ "\x7d" ++
          "\n").toList) := by
    simp [publicFunction, block, decoderSignature, wireMark]
  rw [split]
  exact occursIn_append_self _ _ _

theorem wired_encoder (e : CommandEncoder) (signature : String) :
    occursIn wireMark (publicFunction signature e.body).toList = true := by
  have solid : Solid ("let tlv = tlv::TlvItemEnc" ++ " \x7b") :=
    ⟨by decide, 'l', by decide, by decide⟩
  rw [CommandEncoder.body, String.append_assoc, Resolved.publicFunction_block solid]
  have split : ("pub fn " ++ signature ++ " \x7b\n" ++ ("    " ++ "let tlv = tlv::TlvItemEnc" ++
      " \x7b\n")).toList = ("pub fn " ++ signature ++ " \x7b\n" ++ "    let tlv = ").toList ++
        (wireMark ++ "TlvItemEnc \x7b\n".toList) := by
    simp [wireMark]
  rw [String.toList_append, split, List.append_assoc, List.append_assoc]
  exact occursIn_append_self _ _ _

namespace Resolved

variable (r : Resolved) (s : Settings)

theorem commandEncoder?_undocumented (c : Command) :
    r.undocumented.commandEncoder? s c.undocumented =
      (r.commandEncoder? s c).map fun e => { e with id := "" } := by
  have many : r.undocumented.usesParamsType s c.undocumented = r.usesParamsType s c := by
    rw [usesParamsType, usesParamsType, Command.undocumented,
      members_transfer r.sameTables_undocumented, List.length_map]
  have params (access : String) : (r.undocumented.members none c.fields).map
      (r.undocumented.commandParam access) =
        (r.members none c.fields).map (r.commandParam access) := by
    rw [members_transfer r.sameTables_undocumented, List.map_map]
    exact List.map_congr_left fun m _ => commandParam_transfer _ access m
  have fields : c.undocumented.fields = c.fields := rfl
  rw [commandEncoder?, commandEncoder?, fields, many]
  split
  · rfl
  · exact congrArg some (congrArg (CommandEncoder.mk _ _ _ _) (params _))

theorem payload?_undocumented (typeName decoder doc doc' : String) (fields : List Field) :
    r.undocumented.payload? typeName decoder doc' fields =
      (r.payload? typeName decoder doc fields).map fun p => { p with doc := doc' } := by
  rw [payload?, payload?, recordType_transfer r.sameTables_undocumented,
    compoundInits_transfer r.sameTables_undocumented]
  split <;> rfl

end Resolved

theorem separates_space : Separates ' ' := fun helper => by cases helper <;> decide

theorem separates_open : Separates '(' := fun helper => by cases helper <;> decide

theorem separates_close : Separates ')' := fun helper => by cases helper <;> decide

theorem separates_comma : Separates ',' := fun helper => by cases helper <;> decide

theorem wholeLines_paramsTypeText (e : CommandEncoder) : WholeLines e.paramsTypeText := by
  rw [CommandEncoder.paramsTypeText]
  split
  · exact .inl rfl
  · next name _ =>
      refine .inr ⟨docLine ("Parameters for " ++ e.name ++ " command") ++ "#[derive(Debug, Clone)]\n" ++
        block ("pub struct " ++ name)
          (String.join (e.params.map fun p => "pub " ++ p.declaration ++ ",\n")) ++ "\n", ?_⟩
      simp only [String.append_assoc]
      rfl

theorem samePiece_encoder {e : CommandEncoder} (unbroken : '\n' ∉ e.name.toList)
    (harmless : Harmless e.id) : SamePiece e.text { e with id := "" }.text := by
  have front : '\n' ∉ ("Encode " ++ e.name ++ " command (").toList := by simpa using unbroken
  have docs : SameCode (docLine ("Encode " ++ e.name ++ " command (" ++ e.id ++ ")"))
      (docLine ("Encode " ++ e.name ++ " command (" ++ "" ++ ")")) :=
    .docLine ⟨("Encode " ++ e.name ++ " command ").toList, by simp⟩ ⟨[], rfl⟩
      ⟨separates_open, separates_close⟩ ⟨front, by decide⟩ harmless harmless_empty
  exact samePiece_of_docLine (wholeLines_paramsTypeText e) docs (endsLine_publicFunction _ _)
    (wired_encoder e _)

/-- The decoder of a payload may be documented in another way. -/
theorem samePiece_payload {p : Payload} {doc : String}
    (same : SameCode (docLine p.doc) (docLine doc)) :
    SamePiece p.text { p with doc }.text := by
  have whole : WholeLines (p.type.text ++ "\n") := .inr ⟨p.type.text, rfl⟩
  exact samePiece_of_docLine whole same (endsLine_publicFunction _ _) (wired_decoder _ _ _ _)

theorem sameCode_responseDoc {name id : String} (unbroken : '\n' ∉ name.toList)
    (harmless : Harmless id) :
    SameCode (docLine ("Decode " ++ name ++ " command response (" ++ id ++ ")"))
      (docLine ("Decode " ++ name ++ " command response (" ++ "" ++ ")")) := by
  have front : '\n' ∉ ("Decode " ++ name ++ " command response (").toList := by
    simpa using unbroken
  exact .docLine ⟨("Decode " ++ name ++ " command response ").toList, by simp⟩ ⟨[], rfl⟩
    ⟨separates_open, separates_close⟩ ⟨front, by decide⟩ harmless harmless_empty

theorem sameCode_eventDoc {name id priority : String} (unbroken : '\n' ∉ name.toList)
    (harmlessId : Harmless id) (harmless : Harmless priority) :
    SameCode (docLine ("Decode " ++ name ++ " event (" ++ id ++ ", priority: " ++ priority ++ ")"))
      (docLine ("Decode " ++ name ++ " event (" ++ "" ++ ", priority: " ++ "" ++ ")")) := by
  have front : '\n' ∉ ("Decode " ++ name ++ " event (").toList := by simpa using unbroken
  have middle : '\n' ∉ ("Decode " ++ name ++ " event (" ++ id ++ ", priority: ").toList := by
    have := harmlessId.unbroken
    simpa [not_or] using ⟨unbroken, this⟩
  have back : '\n' ∉ (", priority: " ++ "" ++ ")").toList := by decide
  -- The priority is taken out first, so that the id stands before a fixed text.
  have first : SameCode
      (docLine ("Decode " ++ name ++ " event (" ++ id ++ ", priority: " ++ priority ++ ")"))
      (docLine ("Decode " ++ name ++ " event (" ++ id ++ ", priority: " ++ "" ++ ")")) :=
    .docLine ⟨("Decode " ++ name ++ " event (" ++ id ++ ", priority:").toList, by simp⟩ ⟨[], rfl⟩
      ⟨separates_space, separates_close⟩ ⟨middle, by decide⟩ harmless harmless_empty
  have second : SameCode
      (docLine ("Decode " ++ name ++ " event (" ++ id ++ (", priority: " ++ "" ++ ")")))
      (docLine ("Decode " ++ name ++ " event (" ++ "" ++ (", priority: " ++ "" ++ ")"))) :=
    .docLine ⟨("Decode " ++ name ++ " event ").toList, by simp⟩ ⟨" priority: )".toList, rfl⟩
      ⟨separates_open, separates_comma⟩ ⟨front, back⟩ harmlessId harmless_empty
  simp only [← String.append_assoc] at second
  exact first.trans second

theorem SameDefinition.of_text {r r' : Resolved} {d : Definition r} {d' : Definition r'}
    (types : d.typeNames = d'.typeNames) (functions : d.functionNames = d'.functionNames)
    (text : d.text = d'.text) : SameDefinition d d' :=
  ⟨types, functions, text ▸ .refl d.endsLine_text⟩

namespace Resolved

variable {r : Resolved} {s : Settings}

theorem command_undocumented {c : Command} (plain : (Item.command c).PlainDocs) :
    Option.Rel SameDefinition (r.definition? s (.command c))
      (r.undocumented.definition? s (.command c.undocumented)) := by
  simp only [definition?, commandEncoder?_undocumented]
  cases found : r.commandEncoder? s c with
  | none => exact .none
  | some e =>
      simp only [commandEncoder?, Option.ite_none_left_eq_some, Option.some.injEq] at found
      rcases found with ⟨fields, rfl⟩
      rcases plain (by simpa using fields) with ⟨unbroken, harmless⟩
      exact .some ⟨rfl, rfl, samePiece_encoder unbroken harmless⟩

theorem payload_undocumented {typeName decoder doc doc' : String} {fields : List Field}
    (same : fields ≠ [] → SameCode (docLine doc) (docLine doc')) :
    Option.Rel (SameDefinition : Definition r → Definition r.undocumented → Prop)
      ((r.payload? typeName decoder doc fields).map .payload)
      ((r.undocumented.payload? typeName decoder doc' fields).map .payload) := by
  rw [payload?_undocumented r typeName decoder doc doc' fields]
  cases found : r.payload? typeName decoder doc fields with
  | none => exact .none
  | some p =>
      simp only [payload?, Option.ite_none_left_eq_some, Option.some.injEq] at found
      rcases found with ⟨nonempty, rfl⟩
      exact .some ⟨rfl, rfl, samePiece_payload (same (by simpa using nonempty))⟩

/-- Without the documentation an item has the same code. -/
theorem definition?_undocumented {i : Item} (plain : i.PlainDocs) :
    Option.Rel SameDefinition (r.definition? s i) (r.undocumented.definition? s i.undocumented) := by
  cases i with
  | enum e => exact .some (.of_text rfl rfl rfl)
  | bitmap b => exact .some (.of_text rfl rfl rfl)
  | struct d =>
      have type : r.undocumented.structType d = r.structType d :=
        recordType_transfer r.sameTables_undocumented _ _ _
      simp only [Item.undocumented, definition?, type]
      exact .some (.of_text rfl rfl rfl)
  | command c => exact command_undocumented plain
  | attr a =>
      simp only [Item.undocumented, definition?,
        attributeDecoder?_transfer r.sameTables_undocumented]
      cases r.attributeDecoder? s a with
      | none => exact .none
      | some d => exact .some (.of_text rfl rfl (text_attributeDecoder_transfer _ d).symm)
  | response p =>
      refine payload_undocumented fun fields => ?_
      rcases plain fields with ⟨unbroken, harmless⟩
      exact sameCode_responseDoc unbroken harmless
  | event e =>
      refine payload_undocumented fun fields => ?_
      rcases plain fields with ⟨unbroken, harmlessId, harmless⟩
      exact sameCode_eventDoc unbroken harmlessId harmless

end Resolved
end ClusterCodec

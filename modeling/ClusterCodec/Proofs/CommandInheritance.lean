import ClusterCodec.Proofs.CodeLines
import ClusterCodec.Proofs.TreeReading
import Mathlib.Data.List.Forall2

/-!
# CommandInheritance — the fields that a command takes from another one

- `replaceAll_append_target`: what is left of a text with an occurrence at its end; `baseName_append`
  says so of the base name of a command.
- `fieldsNamed`: the fields of the first command with a name.
- `Settles`: what becomes of a client command of a section.
- `section_commands`: client commands and responses of a section, in declaration order.
- `not_settles_step`: a name that has the ending twice.
-/

namespace ClusterCodec

namespace Text

/-! ## Replacing an ending -/

/-- An occurrence at the end is replaced, whatever is replaced before it: the first character of the
text occurs in it once, so that no other occurrence ends inside the last one. -/
theorem replaceAll_append_target {first : Char} {others replacement : List Char}
    (once : first ∉ others) (cs : List Char) :
    replaceAll (first :: others) replacement (cs ++ first :: others) =
      replaceAll (first :: others) replacement cs ++ replacement := by
  have apart : ¬ Straddles (first :: others) cs (first :: others) := by
    rintro ⟨left, right, split, some, more, -, begins⟩
    cases left with
    | nil => exact some rfl
    | cons c left =>
        cases right with
        | nil => exact more rfl
        | cons d right =>
            have inside : d ∈ others := by
              rw [(List.cons.inj split).2]
              exact List.mem_append_right left List.mem_cons_self
            rw [(List.cons_prefix_cons.1 begins).1] at inside
            exact once inside
  rw [replaceAll_append apart, replaceAll_self (List.cons_ne_nil first others)]

end Text

namespace Reading

open Text Xml

/-! ## Names with the ending -/

theorem hasSuffix_iff_exists_append {suffix name : String} :
    hasSuffix suffix name = true ↔ ∃ front, name = front ++ suffix := by
  rw [hasSuffix, List.isSuffixOf_iff_suffix]
  constructor
  · rintro ⟨front, split⟩
    refine ⟨String.ofList front, String.toList_inj.1 ?_⟩
    rw [String.toList_append, String.toList_ofList, split]
  · rintro ⟨front, rfl⟩
    exact ⟨front.toList, String.toList_append.symm⟩

/-- The ending at the end of a name does not count: what is left is the base name of the rest. -/
theorem baseName_append (front : String) :
    baseName (front ++ inheritedSuffix) = baseName front := by
  have ending : inheritedSuffix.toList = 'W' :: "ithOnOff".toList := rfl
  rw [baseName, baseName, String.toList_append, ending, replaceAll_append_target (by decide),
    List.append_nil]

theorem baseName_of_not_occursIn {name : String}
    (absent : occursIn inheritedSuffix.toList name.toList = false) : baseName name = name := by
  rw [baseName, replaceAll_of_not_occursIn absent, String.ofList_toList]

/-! ## Fields -/

/-- The fields of the first command with the name, or none. -/
def fieldsNamed (inSection : List Declared) (name : String) : List Field :=
  ((inSection.find? (·.command.name == name)).map (·.command.fields)).getD []

/-- What becomes of a client command of a section. With the ending and without fields of its own it
takes those of the first command that bears its name without any occurrence of the ending. -/
structure Settles (inSection : List Declared) (declared settled : Command) : Prop where
  id : settled.id = declared.id
  name : settled.name = declared.name
  inherited : ∀ base, declared.fields = [] → declared.name = base ++ inheritedSuffix →
    settled.fields = fieldsNamed inSection (baseName base)
  kept : (declared.fields ≠ [] ∨ ∀ base, declared.name ≠ base ++ inheritedSuffix) →
    settled.fields = declared.fields

theorem fields_withInheritedFields (inSection : List Declared) {c : Command} {base : String}
    (none : c.fields = []) (name : c.name = base ++ inheritedSuffix) :
    (withInheritedFields inSection c).fields = fieldsNamed inSection (baseName base) := by
  have both : (c.fields.isEmpty && hasSuffix inheritedSuffix c.name) = true := by
    rw [none, hasSuffix_iff_exists_append.2 ⟨base, name⟩]
    rfl
  rw [withInheritedFields, if_pos both, fieldsNamed, name, baseName_append]
  cases inSection.find? (·.command.name == baseName base) with
  | none => exact none
  | some d => rfl

theorem withInheritedFields_of_kept (inSection : List Declared) {c : Command}
    (kept : c.fields ≠ [] ∨ ∀ base, c.name ≠ base ++ inheritedSuffix) :
    withInheritedFields inSection c = c := by
  have other : ¬ (c.fields.isEmpty && hasSuffix inheritedSuffix c.name) = true := by
    rw [Bool.and_eq_true, List.isEmpty_iff, hasSuffix_iff_exists_append]
    rintro ⟨none, base, name⟩
    rcases kept with some | noEnding
    · exact some none
    · exact noEnding base name
  rw [withInheritedFields, if_neg other]

theorem settles_withInheritedFields (inSection : List Declared) (c : Command) :
    Settles inSection c (withInheritedFields inSection c) where
  id := by
    unfold withInheritedFields
    split
    · split <;> rfl
    · rfl
  name := by
    unfold withInheritedFields
    split
    · split <;> rfl
    · rfl
  inherited _ none name := fields_withInheritedFields inSection none name
  kept kept := by rw [withInheritedFields_of_kept inSection kept]

namespace Settles

variable {inSection : List Declared} {declared settled : Command} {base : String}

/-- The fields are those of the command without the last ending exactly when that command and the one
without any ending have the same fields. -/
theorem fields_eq_iff (settles : Settles inSection declared settled) (none : declared.fields = [])
    (name : declared.name = base ++ inheritedSuffix) :
    settled.fields = fieldsNamed inSection base ↔
      fieldsNamed inSection (baseName base) = fieldsNamed inSection base := by
  rw [settles.inherited base none name]

theorem fields_of_plain (settles : Settles inSection declared settled) (none : declared.fields = [])
    (name : declared.name = base ++ inheritedSuffix)
    (plain : occursIn inheritedSuffix.toList base.toList = false) :
    settled.fields = fieldsNamed inSection base := by
  rw [settles.inherited base none name, baseName_of_not_occursIn plain]

end Settles

/-! ## Sections -/

/-- A section of commands is read as the list of its `command` elements. -/
theorem visitSection_commands (fault : Option Fault) (c : Cluster) {tag : Tag}
    (named : tag.name = "commands") (es : List Xml.Event) :
    visitSection fault c tag true es = do
      let inSection ← (elementsNamed "command" (bodyIn true es)).mapM commandIn
      let rest ← restIn fault true es
      return ⟨{ c with
        commands := c.commands ++ clientCommands inSection
        responses := c.responses ++ serverResponses inSection }, true, rest⟩ := by
  have present : ¬ (!true) = true := by
    decide
  have other {name : String} (differs : name ≠ "commands") : ¬ tag.name = name :=
    fun same => differs (same.symm.trans named)
  rw [visitSection, if_neg present, if_neg (other (by decide)), if_neg (other (by decide)),
    if_pos named, gives_readAll gives_readCommand]
  dsimp only
  cases (elementsNamed "command" (bodyIn true es)).mapM commandIn with
  | error e => rfl
  | ok inSection => cases restIn fault true es <;> rfl

theorem forall₂_map {α β : Type} {R : α → β → Prop} {f : α → β} {l : List α}
    (each : ∀ a ∈ l, R a (f a)) : List.Forall₂ R l (l.map f) := by
  rw [List.forall₂_map_right_iff, List.forall₂_same]
  exact each

theorem forall₂_clientCommands (inSection : List Declared) :
    List.Forall₂ (fun d c => Settles inSection d.command c)
      (inSection.filter (·.direction == .toServer)) (clientCommands inSection) :=
  forall₂_map fun d _ => settles_withInheritedFields inSection d.command

theorem forall₂_serverResponses (inSection : List Declared) :
    List.Forall₂ (fun d (p : Response) =>
        p.id = d.command.id ∧ p.name = d.command.name ∧ p.fields = d.command.fields)
      (inSection.filter (·.direction == .fromServer)) (serverResponses inSection) :=
  forall₂_map fun _ _ => ⟨rfl, rfl, rfl⟩

/-- A section adds its client commands and its responses to the cluster, each once and in declaration
order, and leaves commands of other directions out. Responses keep their fields, and so do client
commands, unless they have none and a name with the inherited ending: then the fields are those of the
first command with the name without any occurrence of the ending. They are those of the command
without the last ending exactly when both have the same fields, as they have where the rest of the
name does not contain the ending. -/
theorem section_commands (fault : Option Fault) (c : Cluster) {tag : Tag}
    (named : tag.name = "commands") (es : List Xml.Event) :
    (visitSection fault c tag true es = do
      let inSection ← (elementsNamed "command" (bodyIn true es)).mapM commandIn
      let rest ← restIn fault true es
      return ⟨{ c with
        commands := c.commands ++ clientCommands inSection
        responses := c.responses ++ serverResponses inSection }, true, rest⟩) ∧
    ∀ inSection : List Declared,
      List.Forall₂ (fun d (settled : Command) =>
          settled.id = d.command.id ∧ settled.name = d.command.name ∧
          (∀ base, d.command.fields = [] → d.command.name = base ++ "WithOnOff" →
            settled.fields = fieldsNamed inSection (baseName base) ∧
            (settled.fields = fieldsNamed inSection base ↔
              fieldsNamed inSection (baseName base) = fieldsNamed inSection base) ∧
            (occursIn "WithOnOff".toList base.toList = false →
              settled.fields = fieldsNamed inSection base)) ∧
          ((d.command.fields ≠ [] ∨ ∀ base, d.command.name ≠ base ++ "WithOnOff") →
            settled.fields = d.command.fields))
        (inSection.filter (·.direction == .toServer)) (clientCommands inSection) ∧
      List.Forall₂ (fun d (p : Response) =>
          p.id = d.command.id ∧ p.name = d.command.name ∧ p.fields = d.command.fields)
        (inSection.filter (·.direction == .fromServer)) (serverResponses inSection) := by
  refine ⟨visitSection_commands fault c named es, ?_⟩
  intro inSection
  refine ⟨?_, forall₂_serverResponses inSection⟩
  refine (forall₂_clientCommands inSection).imp fun d settled settles => ?_
  refine ⟨settles.id, settles.name, fun base none name => ⟨?_, ?_, ?_⟩, settles.kept⟩
  · exact settles.inherited base none name
  · exact settles.fields_eq_iff none name
  · exact settles.fields_of_plain none name

/-- The rate of a movement. -/
def rateField : Field :=
  { id := 0, name := "Rate", typeName := "uint8" }

theorem section_commands_move :
    let move : Declared := ⟨.other "commandToClient", ⟨"0x01", "Move", [rateField]⟩⟩
    let repeated : Declared := ⟨.toServer, ⟨"0x05", "MoveWithOnOff", []⟩⟩
    (⟨"commands", []⟩ : Tag).name = "commands" ∧
      ∃ settled, clientCommands [repeated, move] = [settled] ∧ settled.name = "MoveWithOnOff" ∧
        settled.fields = [rateField] := by
  intro move repeated
  have named : (⟨"commands", []⟩ : Tag).name = "commands" := rfl
  have clients := ((section_commands none (.ofHeader "0x0008" "Level") named []).2
    [repeated, move]).1
  have listed : [repeated, move].filter (·.direction == .toServer) = [repeated] := by
    decide
  have plain : occursIn "WithOnOff".toList "Move".toList = false := by
    decide
  rw [listed] at clients
  generalize clientCommands [repeated, move] = commands at clients ⊢
  rcases List.forall₂_cons_left_iff.1 clients with
    ⟨settled, rest, ⟨-, name, inherited, -⟩, none, rfl⟩
  rw [List.forall₂_nil_left_iff.1 none]
  exact ⟨named, settled, rfl, name, (inherited "Move" rfl rfl).2.2 plain⟩

/-- The name `MoveWithOnOffStepWithOnOff` has the ending twice. What is left without both is the name
of no command, so the fields of `MoveWithOnOffStep` are not taken. -/
theorem not_settles_step :
    let step : Declared := ⟨.toServer, ⟨"0x01", "MoveWithOnOffStep", [rateField]⟩⟩
    let repeated : Declared := ⟨.toServer, ⟨"0x05", "MoveWithOnOffStepWithOnOff", []⟩⟩
    repeated.command.name = "MoveWithOnOffStep" ++ "WithOnOff" ∧ repeated.command.fields = [] ∧
      fieldsNamed [step, repeated] "MoveWithOnOffStep" = [rateField] ∧
      clientCommands [step, repeated] =
        [step.command, ⟨"0x05", "MoveWithOnOffStepWithOnOff", []⟩] := by
  decide +kernel

end Reading
end ClusterCodec

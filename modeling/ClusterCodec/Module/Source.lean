import ClusterCodec.Module.Claim
import ClusterCodec.Text.Search

/-!
# Source — the text of a generated module

- `ModuleSection`: the code of the emitted items of one kind.
- `Resolved.sections`: the sections that are not empty, in order.
- `Resolved.routedAttributes`: the attributes that the dispatcher may reach.
- `moduleHeader`, `moduleImports`: the lines above the sections.
- `Resolved.source`: the whole text; it ends with one line break.
-/

namespace ClusterCodec

open Text

/-! ## Sections -/

structure ModuleSection where
  kind : ItemKind
  /-- The pieces of code in order. -/
  parts : List String
  deriving Repr, DecidableEq

def ModuleSection.text (s : ModuleSection) : String :=
  "// " ++ s.kind.sectionTitle ++ "\n\n" ++ String.join (s.parts.map (· ++ "\n"))

namespace Resolved

variable (r : Resolved)

/-- The attributes whose decoder is defined at their place in the order of the items: an attribute
that was emitted, and a later one with a decoder of the same name. -/
def routedFrom (defined : List String) : List (Item × Outcome r) → List Attribute
  | [] => []
  | (.attr a, outcome) :: rest =>
    let defined := if outcome.definition?.isSome then a.decoder :: defined else defined
    if a.decoder ∈ defined then a :: routedFrom defined rest else routedFrom defined rest
  | _ :: rest => routedFrom defined rest

/-- The code of the emitted items of a kind. -/
def emittedParts (outcomes : List (Item × Outcome r)) (kind : ItemKind) : List String :=
  outcomes.filterMap fun (i, outcome) =>
    if i.kind = kind then outcome.definition?.map Definition.text else none

/-- What a section holds beside its items: the attributes are reached by id, if there are any. -/
def extraParts (s : Settings) (outcomes : List (Item × Outcome r)) : ItemKind → List String
  | .attr =>
    if r.cluster.hasAttributes then
      [r.dispatcherText s (r.routedFrom [] outcomes), attributeListText r.cluster.attributes]
    else []
  | _ => []

def sectionsFrom (s : Settings) (outcomes : List (Item × Outcome r)) : List ModuleSection :=
  (ItemKind.all.map fun kind =>
    ⟨kind, r.emittedParts outcomes kind ++ r.extraParts s outcomes kind⟩).filter
      fun (part : ModuleSection) => !part.parts.isEmpty

def sections (s : Settings) : List ModuleSection :=
  r.sectionsFrom s (r.outcomes s)

/-- The attributes that the dispatcher may reach. -/
def routedAttributes (s : Settings) : List Attribute :=
  r.routedFrom [] (r.outcomes s)

def body (s : Settings) : String :=
  String.join ((r.sections s).map ModuleSection.text)

end Resolved

/-! ## Header and imports -/

/-- The documentation of a module; `file` is empty when the source has no name. -/
def moduleHeader (c : Cluster) (file : String) : String :=
  "//! Matter TLV encoders and decoders for " ++ oneLine c.name ++ "\n" ++
    "//! Cluster ID: " ++ oneLine c.idText ++ "\n" ++
    "//!\n" ++
    (if file.isEmpty then "//! This file is automatically generated.\n\n"
    else "//! This file is automatically generated from " ++ file ++ "\n\n")

/-- The hexadecimal helpers that the code names. -/
def usedHelpers (body : String) : List HexHelper :=
  HexHelper.all.filter fun helper =>
    occursIn ("\"" ++ helper.text ++ "\"").toList body.toList

def helperImport (s : Settings) (body : String) : String :=
  match usedHelpers body with
  | [] => ""
  | [one] => "use " ++ s.helpersPath ++ "::" ++ one.text ++ ";\n"
  | many =>
    "use " ++ s.helpersPath ++ "::\x7b" ++ ", ".intercalate (many.map HexHelper.text) ++ "\x7d;\n"

/-- The imports that the code needs. -/
def moduleImports (s : Settings) (body : String) : String :=
  (if occursIn "tlv::".toList body.toList then s.tlvImport ++ "\n" else "") ++ helperImport s body

/-! ## The whole text -/

/-- Leaves one of several line breaks at the front. -/
def oneBreakAtFront : List Char → List Char
  | '\n' :: '\n' :: cs => oneBreakAtFront ('\n' :: cs)
  | cs => cs

/-- Leaves one of several line breaks at the end. -/
def oneBreakAtEnd (text : String) : String :=
  String.ofList (oneBreakAtFront text.toList.reverse).reverse

/-- The text of the module for a cluster that was read from `file`. -/
def Resolved.source (r : Resolved) (s : Settings) (file : String) : String :=
  let body := r.body s
  let imports := moduleImports s body
  oneBreakAtEnd
    (moduleHeader r.cluster file ++ (if imports.isEmpty then "" else imports ++ "\n") ++ body)

end ClusterCodec

import ClusterCodec.Module.Definition

/-!
# Claim — which items get the names they define

- `Owner`: who holds a name.
- `Claims`: the names of types and of functions that are taken.
- `Claims.conflict?`: the first name of a definition that is taken, and its owner.
- `Outcome`: an item has no code, is emitted, or is skipped because a name is taken.
- `Resolved.outcomes`: the outcome of every item. An emitted item takes all its names, a skipped one
  takes none.
-/

namespace ClusterCodec

/-- Who holds a name. -/
inductive Owner where
  /-- A function that every module may use or define. -/
  | helper
  | item (kind : ItemKind) (name : String)
  deriving Repr, DecidableEq

def Owner.text : Owner → String
  | helper => "a generated helper"
  | item kind name => kind.text ++ " '" ++ name ++ "'"

def Item.owner (i : Item) : Owner :=
  .item i.kind i.name

/-! ## Taken names -/

structure Claims where
  types : List (String × Owner)
  functions : List (String × Owner)
  deriving Repr, DecidableEq

namespace Claims

/-- The first name that is taken, with its owner. -/
def firstTaken? (taken : List (String × Owner)) (names : List String) : Option (String × Owner) :=
  names.findSome? fun name => (taken.lookup name).map (name, ·)

variable {r : Resolved}

/-- The first name of the definition that is taken, types before functions. -/
def conflict? (c : Claims) (d : Definition r) : Option (String × Owner) :=
  (firstTaken? c.types d.typeNames).or (firstTaken? c.functions d.functionNames)

/-- Gives all names of the definition to an owner. -/
def take (c : Claims) (owner : Owner) (d : Definition r) : Claims :=
  { types := d.typeNames.map (·, owner) ++ c.types
    functions := d.functionNames.map (·, owner) ++ c.functions }

end Claims

/-! ## Outcomes -/

/-- An item that was left out, the name it lacked, and who holds that name. -/
structure Skipped where
  kind : ItemKind
  source : String
  name : String
  owner : Owner
  deriving Repr, DecidableEq

def Skipped.message (s : Skipped) : String :=
  s.kind.text ++ " '" ++ s.source ++ "' skipped: '" ++ s.name ++ "' is already defined by " ++
    s.owner.text

inductive Outcome (r : Resolved) where
  | nothing
  | emitted (definition : Definition r)
  | skipped (record : Skipped)

namespace Outcome

variable {r : Resolved}

def definition? : Outcome r → Option (Definition r)
  | emitted d => some d
  | _ => none

def record? : Outcome r → Option Skipped
  | skipped s => some s
  | _ => none

end Outcome

namespace Resolved

variable (r : Resolved)

/-- The functions that items must not define. -/
def reservedFunctions : List String :=
  HexHelper.all.map HexHelper.text ++
    if r.cluster.hasAttributes then [dispatcherName, attributeListName] else []

def initialClaims : Claims :=
  ⟨[], r.reservedFunctions.map (·, .helper)⟩

variable {r}

/-- The outcome of an item when some names are taken already. -/
def outcome (s : Settings) (claims : Claims) (i : Item) : Outcome r :=
  match r.definition? s i with
  | none => .nothing
  | some d =>
    match claims.conflict? d with
    | some (name, owner) => .skipped ⟨i.kind, i.name, name, owner⟩
    | none => .emitted d

/-- The taken names after an outcome. -/
def claimsAfter (claims : Claims) (i : Item) : Outcome r → Claims
  | .emitted d => claims.take i.owner d
  | _ => claims

/-- The outcomes of some items in order. -/
def outcomesFrom (s : Settings) (claims : Claims) : List Item → List (Item × Outcome r)
  | [] => []
  | i :: rest =>
    -- A skipped item takes no name, so that a later item may define the names it left.
    let result := outcome s claims i
    (i, result) :: outcomesFrom s (claimsAfter claims i result) rest

variable (r)

def outcomes (s : Settings) : List (Item × Outcome r) :=
  outcomesFrom s r.initialClaims r.cluster.items

def skipped (s : Settings) : List Skipped :=
  (r.outcomes s).filterMap (·.2.record?)

end Resolved
end ClusterCodec

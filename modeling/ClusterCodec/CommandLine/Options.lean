import ClusterCodec.Emit.Settings
import ClusterCodec.Text.Numeral

/-!
# Options — the arguments of the program

- `Options`: two directories and the settings.
- `Request`: a run, or the help text.
- `Request.ofArguments?`: none for arguments that cannot be understood.

Options and arguments may be mixed. Two dashes end the options. An option with a value takes it after
an equals sign or from the next argument, which must not look like an option. No option is given
twice, except the one that asks for more log lines.
-/

namespace ClusterCodec
namespace CommandLine

open Text

structure Options where
  input : String
  output : String
  settings : Settings
  deriving Repr, DecidableEq

inductive Request where
  | help
  | run (options : Options)
  deriving Repr, DecidableEq

/-! ## Options by name -/

inductive OptionName where
  | tlvPath
  | helpersPath
  | maxPositionalParams
  | strictAttributes
  | noModuleFile
  | verbose
  | help
  deriving Repr, DecidableEq

namespace OptionName

def ofLong? (name : String) : Option OptionName :=
  if name = "tlv-path" then some tlvPath
  else if name = "helpers-path" then some helpersPath
  else if name = "max-positional-params" then some maxPositionalParams
  else if name = "strict-attributes" then some strictAttributes
  else if name = "no-mod-file" then some noModuleFile
  else if name = "verbose" then some verbose
  else if name = "help" then some help
  else none

def takesValue : OptionName → Bool
  | tlvPath | helpersPath | maxPositionalParams => true
  | strictAttributes | noModuleFile | verbose | help => false

end OptionName

/-! ## Arguments -/

/-- A part of the command line. -/
inductive Argument where
  | positional (text : String)
  | value (name : OptionName) (text : String)
  | flag (name : OptionName)
  deriving Repr, DecidableEq

def looksLikeOption (arg : String) : Bool :=
  match arg.toList with
  | '-' :: _ :: _ => true
  | _ => false

/-- The name of a long option and the value after an equals sign. -/
def splitLong? (arg : String) : Option (String × Option String) :=
  match arg.toList with
  | '-' :: '-' :: cs =>
    let name := String.ofList (cs.takeWhile (· != '='))
    match cs.dropWhile (· != '=') with
    | '=' :: value => some (name, some (String.ofList value))
    | _ => some (name, none)
  | _ => none

/-- What an argument that looks like an option is. -/
inductive Reading where
  /-- An option that is complete. -/
  | complete (argument : Argument)
  /-- An option whose value is the next argument. -/
  | awaitsValue (name : OptionName)
  deriving Repr, DecidableEq

def readLong? (name : OptionName) (attached : Option String) : Option Reading :=
  match attached with
  | some value => if name.takesValue then some (.complete (.value name value)) else none
  | none => some (if name.takesValue then .awaitsValue name else .complete (.flag name))

/-- The letters after one dash. A request for help ends them. -/
def readShort? : List Char → Option Reading
  | [] => some (.complete (.flag .verbose))
  | 'h' :: _ => some (.complete (.flag .help))
  | 'v' :: rest => readShort? rest
  | _ => none

def reading? (arg : String) : Option Reading :=
  match splitLong? arg with
  | some (long, attached) => (OptionName.ofLong? long).bind (readLong? · attached)
  | none =>
    if looksLikeOption arg then readShort? (arg.toList.drop 1)
    else some (.complete (.positional arg))

/-- The parts of the command line up to a request for help. -/
def readArguments? : List String → Option (List Argument)
  | [] => some []
  | arg :: rest =>
    -- Everything after the mark is a directory, whatever it looks like.
    if arg = "--" then some (rest.map .positional)
    else
      match reading? arg with
      | none => none
      -- What follows a request for help is not read.
      | some (.complete (.flag .help)) => some [.flag .help]
      | some (.complete a) => (readArguments? rest).map (a :: ·)
      | some (.awaitsValue name) =>
        match rest with
        | [] => none
        | value :: others =>
          if looksLikeOption value then none
          else (readArguments? others).map (.value name value :: ·)

/-! ## Collecting -/

/-- What some arguments have said. -/
structure Collected where
  positional : List String := []
  given : List OptionName := []
  settings : Settings := {}
  deriving Repr, DecidableEq

namespace Collected

/-- Notes an option that was not given before. -/
def addGiven? (c : Collected) (name : OptionName) : Option Collected :=
  if name ∈ c.given then none else some { c with given := name :: c.given }

/-- Changes the settings by the value of an option. -/
def setValue? (s : Settings) (value : String) : OptionName → Option Settings
  | .tlvPath => some { s with tlvPath := value }
  | .helpersPath => some { s with helpersPath := value }
  | .maxPositionalParams =>
    (Numeral.readWord 10 value.toList).map fun n => { s with maxPositionalParams := n }
  | _ => none

/-- Changes the settings by an option without a value. -/
def setFlag (s : Settings) : OptionName → Settings
  | .strictAttributes => { s with strictAttributes := true }
  | .noModuleFile => { s with moduleFile := false }
  | _ => s

/-- At most two directories, none of them empty; no option twice. -/
def add? (c : Collected) : Argument → Option Collected
  | .positional text =>
    if c.positional.length < 2 ∧ text ≠ "" then
      some { c with positional := c.positional ++ [text] }
    else none
  | .value name text =>
    (c.addGiven? name).bind fun c =>
      (setValue? c.settings text name).map fun settings => { c with settings }
  | .flag .verbose => some c
  | .flag name => (c.addGiven? name).map fun c => { c with settings := setFlag c.settings name }

def request? (c : Collected) : Option Request :=
  if .help ∈ c.given then some .help
  else
    match c.positional with
    | [input, output] => some (.run ⟨input, output, c.settings⟩)
    | _ => none

end Collected

def Request.ofArguments? (args : List String) : Option Request :=
  (readArguments? args).bind fun arguments =>
    (arguments.foldlM Collected.add? {}).bind Collected.request?

end CommandLine
end ClusterCodec

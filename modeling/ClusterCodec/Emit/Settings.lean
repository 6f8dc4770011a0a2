/-!
# Settings — the options of code generation

- `Settings`: the options with their defaults.
- `Settings.tlvImport`: the line that brings the wire library into scope as `tlv`.
-/

namespace ClusterCodec

structure Settings where
  /-- The module path of the wire library. -/
  tlvPath : String := "crate::tlv"
  /-- The module path of the helpers that write octet strings as hexadecimal text. -/
  helpersPath : String := "crate::clusters::helpers"
  /-- Attributes that are not nullable get decoders that fail on a mismatch. -/
  strictAttributes : Bool := false
  /-- A command with more parameters takes them in a struct. -/
  maxPositionalParams : Nat := 7
  /-- Whether the file that declares all modules is written. -/
  moduleFile : Bool := true
  deriving Repr, DecidableEq

namespace Settings

/-- Drops every `::` at the end of a path that is given from its end. -/
def dropSeparators : List Char → List Char
  | ':' :: ':' :: cs => dropSeparators cs
  | cs => cs

/-- The path of the wire library without separators at its end. -/
def tlvModule (s : Settings) : List Char :=
  (dropSeparators s.tlvPath.toList.reverse).reverse

/-- The import of the wire library, renamed unless its name is `tlv` already. -/
def tlvImport (s : Settings) : String :=
  let path := s.tlvModule
  let named := path == "tlv".toList || "::tlv".toList.isSuffixOf path
  "use " ++ String.ofList path ++ (if named then ";" else " as tlv;")

end Settings
end ClusterCodec

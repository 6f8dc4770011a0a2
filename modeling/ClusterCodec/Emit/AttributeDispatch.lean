import ClusterCodec.Emit.AttributeDecoder
import ClusterCodec.Schema.FirstOfEach

/-!
# AttributeDispatch — reaching the attributes of a cluster by id

- `dispatcherName`, `attributeListName`: the two functions.
- `JsonArm`, `Resolved.jsonArms`: which decoder an id is routed to.
- `numberedAttributes`: the attributes with numeric ids, the first one of each id.
- `Resolved.dispatcherText`, `attributeListText`: the source text.
-/

namespace ClusterCodec

open Text

def dispatcherName : String := "decode_attribute_json"

def attributeListName : String := "get_attribute_list"

/-- The attributes with numeric ids, the first one of each id. -/
def numberedAttributes (attrs : List Attribute) : List (UInt32 × Attribute) :=
  keepFirst Prod.fst (attrs.filterMap fun a => a.numericId?.map (·, a))

/-- An id and the decoder that it is routed to. -/
structure JsonArm (r : Resolved) where
  id : UInt32
  decoder : AttributeDecoder r

/-- One arm for each id whose first attribute has a decoder. -/
def Resolved.jsonArms (r : Resolved) (s : Settings) (attrs : List Attribute) : List (JsonArm r) :=
  (numberedAttributes attrs).filterMap fun (id, a) => (r.attributeDecoder? s a).map (⟨id, ·⟩)

/-! ## Text -/

def idText (id : UInt32) : String :=
  Numeral.hexId id.toNat

/-- An expression that formats a JSON object with an error message. -/
def errorFormat (message argument : String) : String :=
  "format!(" ++ Quoted.quote ("\x7b\x7b\"error\": \"" ++ message ++ "\"\x7d\x7d") ++ ", " ++
    argument ++ ")"

/-- The octet string `source` as hexadecimal text. -/
def hexText (source : String) : String :=
  source ++ ".iter().map(|b| format!(" ++ Quoted.quote "\x7b:02x\x7d" ++
    ", b)).collect::<String>()"

/-- The decoded `value` in the form that is written as JSON: octet strings as hexadecimal text. -/
def DecoderKind.jsonSource {r : Resolved} : DecoderKind r → String
  | optional (.leaf .bytes) => "value.map(|bytes| " ++ hexText "bytes" ++ ")"
  | required (.leaf .bytes) => hexText "value"
  | list (.leaf .bytes) =>
    "value.iter().map(|bytes| " ++ hexText "bytes" ++ ").collect::<Vec<_>>()"
  | _ => "value"

def JsonArm.text {r : Resolved} (arm : JsonArm r) : String :=
  block (idText arm.id ++ " => match " ++ arm.decoder.attr.decoder ++ "(tlv_value)")
    ("Ok(value) => serde_json::to_string(&" ++ arm.decoder.kind.jsonSource ++
      ").unwrap_or_else(|_| \"null\".to_string()),\n" ++
      "Err(e) => " ++ errorFormat "\x7b\x7d" "e" ++ ",\n") ++ ",\n"

def dispatcherSignature : String :=
  dispatcherName ++ "(cluster_id: u32, attribute_id: u32, tlv_value: &tlv::TlvItemValue) -> String"

/-- The function that decodes an attribute by id and returns JSON text. -/
def Resolved.dispatcherText (r : Resolved) (s : Settings) (attrs : List Attribute) : String :=
  let id := idText r.cluster.id
  docLine "Decode attribute value and return as JSON string" ++ "///\n" ++
    docLine "# Parameters" ++
    docLine ("* `cluster_id` - The cluster identifier; must be " ++ id) ++
    docLine "* `attribute_id` - The attribute identifier" ++
    docLine "* `tlv_value` - The TLV value to decode" ++ "///\n" ++
    docLine "# Returns" ++ docLine "JSON string representation of the decoded value or error" ++
    publicFunction dispatcherSignature
      (block ("if cluster_id != " ++ id)
          ("return " ++
            errorFormat ("Invalid cluster ID. Expected " ++ id ++ ", got \x7b\x7d") "cluster_id" ++
            ";\n") ++
        "\n\n" ++
        block "match attribute_id"
          (String.join ((r.jsonArms s attrs).map JsonArm.text) ++
            "_ => " ++ errorFormat "Unknown attribute ID: \x7b\x7d" "attribute_id" ++ ",\n") ++
        "\n")

/-- The function that lists ids and names. -/
def attributeListText (attrs : List Attribute) : String :=
  docLine "Get list of all attributes supported by this cluster" ++ "///\n" ++
    docLine "# Returns" ++
    docLine "Vector of tuples containing (attribute_id, attribute_name)" ++
    publicFunction (attributeListName ++ "() -> Vec<(u32, &'static str)>")
      ("vec![\n" ++
        indent 1 (String.join ((numberedAttributes attrs).map fun (id, a) =>
          "(" ++ idText id ++ ", " ++ Quoted.quote a.name ++ "),\n")) ++
        "]\n")

end ClusterCodec

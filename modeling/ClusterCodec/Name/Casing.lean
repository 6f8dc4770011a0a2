import ClusterCodec.Text.Blank
import ClusterCodec.Text.LetterCase
import ClusterCodec.Text.Search

/-!
# Casing — names in snake case and in Pascal case

- `abbreviations`: capital runs that count as one word, in the order in which they apply.
- `snake`: words in small letters joined by single underscores.
- `pascal`: words with a capital first letter, joined without a separator.

Word boundaries are looked for between ASCII letters and digits only; the case maps are those of all
of Unicode.
-/

namespace ClusterCodec
namespace Name

open Text

/-- Abbreviations and the capitalised words that stand for them, in the order in which they apply. -/
def abbreviations : List (String × String) := [
  ("WiFi", "Wifi"), ("RFID", "Rfid"), ("HTTP", "Http"), ("HTTPS", "Https"), ("XML", "Xml"),
  ("JSON", "Json"), ("API", "Api"), ("URL", "Url"), ("URI", "Uri"), ("UUID", "Uuid"),
  ("TCP", "Tcp"), ("UDP", "Udp"), ("MAC", "Mac"), ("DNS", "Dns"), ("SSL", "Ssl"), ("TLS", "Tls"),
  ("PIN", "Pin"), ("ACL", "Acl"), ("ICD", "Icd"), ("OTA", "Ota"), ("PKI", "Pki"), ("CO", "Co")
]

/-- Writes every abbreviation as a capitalised word, one row of the table after the other. -/
def unifyAbbreviations (cs : List Char) : List Char :=
  abbreviations.foldl (fun s row => replaceAll row.1.toList row.2.toList s) cs

/-! ## Word boundaries -/

/-- Separates a run of capitals from the capitalised word that it runs into: `XMLHttp` becomes
`XML_Http`. -/
def splitCapitalRuns : List Char → List Char
  | a :: b :: cs =>
    if a.isUpper && b.isUpper && cs.head?.any Char.isLower then
      a :: '_' :: splitCapitalRuns (b :: cs)
    else a :: splitCapitalRuns (b :: cs)
  | cs => cs

/-- Separates a capital from the small letter or digit before it: `getHttp` becomes `get_Http`. -/
def splitCapitals : List Char → List Char
  | a :: b :: cs =>
    if (a.isLower || a.isDigit) && b.isUpper then a :: '_' :: splitCapitals (b :: cs)
    else a :: splitCapitals (b :: cs)
  | cs => cs

/-- Keeps one underscore of each run of underscores. -/
def squeeze : List Char → List Char
  | a :: b :: cs => if a = '_' && b = '_' then squeeze (b :: cs) else a :: squeeze (b :: cs)
  | cs => cs

def trimUnderscores (cs : List Char) : List Char :=
  trimBy (· == '_') cs

/-! ## The two cases -/

def snakeChars (cs : List Char) : List Char :=
  trimUnderscores
    ((squeeze (splitCapitals (splitCapitalRuns (unifyAbbreviations cs)))).flatMap
      LetterCase.lowered)

/-- The name in small letters, its words joined by single underscores. -/
def snake (name : String) : String :=
  String.ofList (snakeChars name.toList)

/-- A word with a capital first letter and small letters after it. -/
def capitalize : List Char → List Char
  | [] => []
  | c :: cs => LetterCase.raised c ++ cs.flatMap LetterCase.lowered

/-- A name that starts with a capital as it is; any other with the words between its underscores
capitalised and joined. -/
def pascal (name : String) : String :=
  if name.toList.head?.any LetterCase.isCapital then name
  else String.ofList ((runsBetween (· == '_') name.toList).flatMap capitalize)

end Name
end ClusterCodec

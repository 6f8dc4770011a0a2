import ClusterCodec.Text.Numeral

/-!
# Fault — what can be wrong with markup

- `CharacterFault`: a character reference that stands for no character.
- `Fault`: unclosed and mismatched markup, and references that cannot be resolved.
- `Fault.message`: the wording.

Ranges are counted in bytes of the attribute value.
-/

namespace ClusterCodec
namespace Xml

open Text

inductive CharacterFault where
  | sign
  | number (fault : Numeral.Fault)
  | notACharacter (code : Nat)
  | notPermitted (code : Nat)
  deriving Repr, DecidableEq

def CharacterFault.message : CharacterFault → String
  | .sign => "unexpected number sign"
  | .number fault => fault.message
  | .notACharacter code => "`" ++ Numeral.decimal code ++ "` is not a valid codepoint"
  | .notPermitted code => "0x" ++ Numeral.hex code ++ " character is not permitted in XML"

inductive Fault where
  | unknownMarkup
  | unclosedInstruction
  | unclosedDeclaration
  | unclosedComment
  | unclosedDoctype
  | unclosedCharacterData
  | unclosedTag
  | unclosedQuote (quote : Char)
  | unclosedReference
  | missingDoctypeName
  | mismatchedEnd (expected found : String)
  | unmatchedEnd (name : String)
  | unterminatedEntity (first last : Nat)
  | unrecognizedEntity (first last : Nat) (name : String)
  | character (fault : CharacterFault)
  deriving Repr, DecidableEq

namespace Fault

private def notClosed (what mark : String) : String :=
  "syntax error: " ++ what ++ " not closed: `" ++ mark ++ "` not found before end of input"

private def range (first last : Nat) : String :=
  Numeral.decimal first ++ ".." ++ Numeral.decimal last

def message : Fault → String
  | unknownMarkup => "syntax error: unknown or missed symbol in markup"
  | unclosedInstruction => notClosed "processing instruction" "?>"
  | unclosedDeclaration => notClosed "XML declaration" "?>"
  | unclosedComment => notClosed "comment" "-->"
  | unclosedDoctype => notClosed "DOCTYPE" ">"
  | unclosedCharacterData => notClosed "CDATA" "]]>"
  | unclosedTag => notClosed "tag" ">"
  | unclosedQuote quote => notClosed "attribute value" quote.toString
  | unclosedReference =>
    "ill-formed document: entity or character reference not closed: `;` not found before end of input"
  | missingDoctypeName =>
    "ill-formed document: `<!DOCTYPE>` declaration does not contain a name of a document type"
  | mismatchedEnd expected found =>
    "ill-formed document: expected `</" ++ expected ++ ">`, but `</" ++ found ++ ">` was found"
  | unmatchedEnd name =>
    "ill-formed document: close tag `</" ++ name ++ ">` does not match any open tag"
  | unterminatedEntity first last =>
    "Error while escaping character at range " ++ range first last ++ ": Cannot find ';' after '&'"
  | unrecognizedEntity first last name =>
    "at " ++ range first last ++ ": unrecognized entity `" ++ name ++ "`"
  | character fault => "invalid character reference: " ++ fault.message

end Fault
end Xml
end ClusterCodec

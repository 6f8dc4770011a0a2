import ClusterCodec.Text.Blank

/-!
# Indent — indentation of the lines of a text, and code between braces

- `lines`: a text cut after each line break, so that the lines join to the text again.
- `indent`: four spaces a level before every line that is not blank.
- `indentTail`: the same, but the first line stays; for a text spliced in after other text.
- `block`: a head line, an indented body, a closing brace.
- `inBraces`: a text between braces on one line.
-/

namespace ClusterCodec
namespace Text

/-- Cuts a text after each line break. -/
def lines (cs : List Char) : List (List Char) :=
  match _h : cs.dropWhile (· != '\n') with
  | [] => if cs.isEmpty then [] else [cs]
  | lineBreak :: rest => (cs.takeWhile (· != '\n') ++ [lineBreak]) :: lines rest
termination_by cs.length
decreasing_by
  have shorter : (cs.dropWhile (· != '\n')).length ≤ cs.length :=
    (List.dropWhile_sublist _).length_le
  rw [_h, List.length_cons] at shorter
  exact shorter

def isBlankLine (line : List Char) : Bool :=
  line.all isBlank

def indentLine (level : Nat) (line : List Char) : List Char :=
  if isBlankLine line then line else List.replicate (4 * level) ' ' ++ line

/-- Indents every line that is not blank by `level` steps. -/
def indent (level : Nat) (text : String) : String :=
  String.ofList ((lines text.toList).flatMap (indentLine level))

/-- Indents every line after the first that is not blank by `level` steps. -/
def indentTail (level : Nat) (text : String) : String :=
  match lines text.toList with
  | [] => text
  | first :: rest => String.ofList (first ++ rest.flatMap (indentLine level))

/-! ## Braces -/

/-- A head with an opening brace, the indented body and a closing brace, without a line break at
the end. -/
def block (head body : String) : String :=
  head ++ " \x7b\n" ++ indent 1 body ++ "\x7d"

def inBraces (text : String) : String :=
  "\x7b " ++ text ++ " \x7d"

end Text
end ClusterCodec

import ClusterCodec.Text.Numeral
import ClusterCodec.Text.Visible

/-!
# Quoted — texts written as string literals

- `quote`: a literal that shows every visible character as itself and escapes the rest.
- `asciiEscape`: the inside of a literal in printable ASCII only.
-/

namespace ClusterCodec
namespace Text
namespace Quoted

/-- An escape by code point: `\u`, an open brace, the number in hexadecimal, a closing brace. -/
def codePointEscape (c : Char) : List Char :=
  ['\\', 'u', '\x7b'] ++ Numeral.digits 16 false c.toNat ++ ['\x7d']

/-- A character inside a literal. Marks that would attach to their neighbour are escaped. -/
def escapeChar (c : Char) : List Char :=
  if c = '\x00' then ['\\', '0']
  else if c = '\t' then ['\\', 't']
  else if c = '\r' then ['\\', 'r']
  else if c = '\n' then ['\\', 'n']
  else if c = '\\' then ['\\', '\\']
  else if c = '\x22' then ['\\', '\x22']
  else if Visible.isJoining c then codePointEscape c
  else if Visible.isVisible c then [c]
  else codePointEscape c

/-- A character inside a literal that holds printable ASCII only. -/
def asciiEscapeChar (c : Char) : List Char :=
  if c = '\t' then ['\\', 't']
  else if c = '\r' then ['\\', 'r']
  else if c = '\n' then ['\\', 'n']
  else if c = '\\' ∨ c = '\x22' ∨ c = '\x27' then ['\\', c]
  else if 0x20 ≤ c.toNat ∧ c.toNat ≤ 0x7E then [c]
  else codePointEscape c

/-- The string literal for a text. -/
def quote (s : String) : String :=
  String.ofList (['\x22'] ++ s.toList.flatMap escapeChar ++ ['\x22'])

def asciiEscape (s : String) : String :=
  String.ofList (s.toList.flatMap asciiEscapeChar)

end Quoted
end Text
end ClusterCodec

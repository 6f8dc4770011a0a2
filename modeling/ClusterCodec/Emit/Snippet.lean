import ClusterCodec.Text.Indent
import ClusterCodec.Text.Quoted

/-!
# Snippet — recurring pieces of generated source

- `docLine`: a line of documentation.
- `publicFunction`, `ifElse`: blocks.
- `failure`: a failed result with a message.
-/

namespace ClusterCodec

open Text

def docLine (text : String) : String :=
  "/// " ++ text ++ "\n"

/-- The documentation line for a summary, if the summary has any words. -/
def summaryLine (summary : String) : String :=
  let text := oneLine summary
  if text.isEmpty then "" else docLine text

/-- The block of a public function. -/
def publicFunction (signature body : String) : String :=
  block ("pub fn " ++ signature) body ++ "\n"

/-- A failed result whose message is the inside of a string literal. -/
def failure (message : String) : String :=
  "Err(anyhow::anyhow!(" ++ "\"" ++ message ++ "\"" ++ "))"

/-- A choice between two blocks. -/
def ifElse (condition yes no : String) : String :=
  block ("if " ++ condition) yes ++ block " else" no ++ "\n"

end ClusterCodec

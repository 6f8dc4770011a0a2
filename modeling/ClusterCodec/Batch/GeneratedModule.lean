import ClusterCodec.Batch.FileName
import ClusterCodec.Lexical.Token
import ClusterCodec.Module.Source
import ClusterCodec.Reading.ClusterDocument

/-!
# GeneratedModule — the module of one cluster document

- `GenerateError`: why a module is not generated; `GenerateError.message`: the wording.
- `ManifestEntry`: what the other files need to know of a module.
- `checkTokens`: code must fall into tokens.
- `GeneratedModule.ofDocument`: the module for a document that was read from a named file.
- `sourceOfDocument`: the code for a document without a file.
-/

namespace ClusterCodec

/-! ## Errors -/

/-- The document does not read, a file is out of reach, two files give one module, the code does not
fall into tokens, a directory is missing. -/
inductive GenerateError where
  | reading (error : ReadError)
  | file (reason : String)
  | collision (moduleName first second : String)
  | lexical (moduleName : String)
  | invalidDirectory (path : String)
  deriving Repr, DecidableEq

def GenerateError.message : GenerateError → String
  | .reading error => "cluster parse error: " ++ error.message
  | .file reason => "IO error: " ++ reason
  | .collision moduleName first second =>
    "module '" ++ moduleName ++ "' from '" ++ second ++ "' collides with '" ++ first ++ "'"
  | .lexical moduleName =>
    "generated module '" ++ moduleName ++
      "' is not valid Rust: cannot parse string into token stream"
  | .invalidDirectory path => "not a directory: " ++ path

/-! ## Modules -/

structure ManifestEntry where
  clusterId : UInt32
  clusterName : String
  moduleName : String
  /-- The file that the document was read from. -/
  sourceFile : String
  hasAttributes : Bool
  deriving Repr, DecidableEq

structure GeneratedModule where
  entry : ManifestEntry
  code : String
  skipped : List Skipped
  deriving Repr, DecidableEq

/-- Passes code that falls into tokens. -/
def checkTokens (moduleName code : String) : Except GenerateError String :=
  if Lexical.tokenizes code then .ok code else .error (.lexical moduleName)

def readCluster (document : String) : Except GenerateError Cluster :=
  (Cluster.ofText document).mapError .reading

/-- The name of the module for a file. -/
def moduleNameOf (file : String) : String :=
  Name.Identifier.ofModule (FileName.stem file)

def GeneratedModule.ofDocument (s : Settings) (file document : String) :
    Except GenerateError GeneratedModule := do
  let r := (← readCluster document).resolve
  let code ← checkTokens (moduleNameOf file) (r.source s file)
  return {
    entry := {
      clusterId := r.cluster.id
      clusterName := r.cluster.name
      moduleName := moduleNameOf file
      sourceFile := file
      hasAttributes := r.cluster.hasAttributes }
    code
    skipped := r.skipped s }

/-- The code for a document, with the default settings. This is for callers that have one document: a
batch has files and goes through `GeneratedModule.ofDocument`. -/
def sourceOfDocument (document : String) : Except GenerateError String := do
  let r := (← readCluster document).resolve
  checkTokens r.cluster.name (r.source {} "")

end ClusterCodec

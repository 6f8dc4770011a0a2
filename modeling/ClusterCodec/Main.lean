import ClusterCodec.CommandLine.Execution

/-!
# Main — the program

- `readDirectory`: the entries of a directory, with the bytes of its files.
- `makeDirectory`: makes a directory unless it is there.
- `run`, `program`: read, execute and write. Arguments that cannot be understood end with status 2.
-/

namespace ClusterCodec
namespace CommandLine

/-- How the program is called. -/
def usage : String :=
  "Usage: [OPTIONS] <INPUT_DIR> <OUTPUT_DIR>\n\n" ++
    "Options:\n" ++
    "  --tlv-path <TLV_PATH>\n" ++
    "  --helpers-path <HELPERS_PATH>\n" ++
    "  --strict-attributes\n" ++
    "  --max-positional-params <MAX_POSITIONAL_PARAMS>\n" ++
    "  --no-mod-file\n" ++
    "  -v, --verbose\n" ++
    "  -h, --help\n"

/-- The entries of a directory, or none if the path leads to no directory. -/
def readDirectory (path : String) : IO (Option Directory) := do
  let place := (← IO.currentDir) / path
  if !(← place.isDir) then return none
  let entries ← (← place.readDir).toList.mapM fun e => do
    let content ←
      if ← e.path.isDir then pure EntryContent.directory
      else
        try
          pure (EntryContent.file (← IO.FS.readBinFile e.path))
        catch fault =>
          pure (EntryContent.unreadable (toString fault))
    return (⟨e.fileName, content⟩ : DirectoryEntry)
  return some (SymbolTable.ofList entries)

/-- Makes a directory; the result says why that is not possible. -/
def makeDirectory (path : String) : IO (Option String) := do
  try
    IO.FS.createDirAll path
    return none
  catch fault =>
    return some (toString fault)

/-- Runs the program; the result is its exit status. -/
def run (o : Options) : IO UInt32 := do
  let input ← readDirectory o.input
  let ready := input.any fun d => !(Directory.documents d).isEmpty
  let outputFault ← if ready then makeDirectory o.output else pure none
  let effect := o.execute ⟨input, outputFault⟩
  for (name, text) in effect.files do
    IO.FS.writeFile (FileName.join o.output name) text
  IO.print effect.standardOutput
  IO.eprint effect.standardError
  return UInt32.ofNat effect.exitStatus

/-- The program with its arguments. -/
def program (args : List String) : IO UInt32 := do
  match Request.ofArguments? args with
  | none =>
    IO.eprint usage
    return 2
  | some .help =>
    IO.print usage
    return 0
  | some (.run o) => run o

end CommandLine
end ClusterCodec

def main (args : List String) : IO UInt32 :=
  ClusterCodec.CommandLine.program args

import ClusterCodec.Batch.Report
import ClusterCodec.CommandLine.Options

/-!
# Execution — what the program does and prints

- `Surroundings`: what the program finds in the place of its two directories.
- `Effect`: the files to write, the two output texts and the exit status.
- `Options.execute`: the effect of a run.
-/

namespace ClusterCodec
namespace CommandLine

open Text

/-- What stands in the place of the two directories. -/
structure Surroundings where
  /-- The input directory, if it is one. -/
  input : Option Directory
  /-- Why the output directory cannot be made. -/
  outputFault : Option String

structure Effect where
  exitStatus : Nat
  /-- The files to write into the output directory, by name. -/
  files : List (String × String)
  standardOutput : String
  standardError : String
  deriving Repr, DecidableEq

def Effect.failure (message : String) : Effect :=
  ⟨1, [], "", "error: " ++ message ++ "\n"⟩

/-- A line for each file with what is said of it. -/
def fileLines (l : List (String × String)) : String :=
  String.join (l.map fun (file, text) => "  " ++ file ++ ": " ++ text ++ "\n")

/-- What is printed after a run that generated a module. -/
def summary (r : BatchReport) (output : String) : String :=
  "Generated " ++ Numeral.decimal r.processed ++ " cluster module(s) in " ++ output ++ "\n" ++
    fileLines (r.skipped.map fun (file, s) => (file, s.message)) ++
    if r.failed.isEmpty then ""
    else
      "Skipped " ++ Numeral.decimal r.failed.length ++ " file(s):\n" ++
        fileLines (r.failed.map fun (file, e) => (file, e.message))

/-- The effect of a run. A run that generates nothing fails. -/
def Options.execute (o : Options) (s : Surroundings) : Effect :=
  match s.input with
  | none =>
    .failure ("cannot read input directory " ++ o.input ++ ": " ++
      (GenerateError.invalidDirectory o.input).message)
  | some directory =>
    if (Directory.documents directory).isEmpty then .failure ("no .xml files found in " ++ o.input)
    else
      match s.outputFault with
      | some reason =>
        -- The message ends with its cause, which for a file is the reason once more.
        .failure ("generation into " ++ o.output ++ " failed: " ++
          (GenerateError.file reason).message ++ ": " ++ reason)
      | none =>
        let report := BatchReport.of o.settings directory
        if report.succeeded then
          ⟨0, report.outputs o.settings, summary report o.output, ""⟩
        else
          .failure ("none of the " ++ Numeral.decimal report.failed.length ++
            " cluster files could be generated")

end CommandLine
end ClusterCodec

import RuleDigest.Run
import RuleDigest.Workspace.Edit

/-!
The command line tool.  It copies what a run looks at into a workspace, runs the
program there and prints what comes out.
-/

namespace RuleDigest.Main

/-- A path as the operating system takes it. -/
def pathString (path : Bytes) : String :=
  String.ofList (Utf8.decodeLossy path)

/-- Copy the file or the empty directory at a path. -/
def copyEntry (workspace : Workspace) (path : Bytes) : IO Workspace := do
  try
    let real ← IO.FS.realPath (pathString path)
    if ← real.isDir then
      return workspace.edited (.makeDirectory path)
    let content ← IO.FS.readBinFile real
    return workspace.edited (.write path content.toList)
  catch _ => return workspace

/-- Copy the entries of the directory at a path, its files without their content. -/
def copyListing (workspace : Workspace) (path : Bytes) : IO Workspace := do
  try
    let real ← IO.FS.realPath (pathString path)
    let mut workspace := workspace
    for entry in ← real.readDir do
      let name := Path.join path (Utf8.ofString entry.fileName)
      try
        let isFile := match (← entry.path.metadata).type with
          | .file => true
          | _ => false
        workspace := workspace.edited (if isFile then .write name [] else .makeDirectory name)
      catch _ => workspace := workspace.edited (.makeDirectory name)
    return workspace
  catch _ => return workspace

def copyFor (job : Run.Job) : IO Workspace := do
  let mut workspace ← copyEntry .empty (Layout.configFile Path.dot)
  if let .ok config := Run.configuration workspace job then
    workspace ← copyEntry workspace config.rulesDir
    workspace ← copyListing workspace config.rulesDir
    if let .ok ruleSet := RuleSet.scan workspace config.rulesDir then
      for rule in ruleSet.rules do
        workspace ← copyEntry workspace (rule.resultPath job.resultsDir)
  return workspace

/-- Copy what a command line leads to. -/
def copyForArguments (arguments : List Bytes) : IO Workspace :=
  match CommandLine.parse arguments with
  | .ok (.run options) =>
      match Run.job? options with
      | some job => copyFor job
      | none => return .empty
  | _ => return .empty

end RuleDigest.Main

open RuleDigest in
/-- Run the program on the files of the working directory. -/
def main (arguments : List String) : IO UInt32 := do
  let arguments := arguments.map Utf8.ofString
  let spec? := (← IO.getEnv "RUST_LOG").map String.toList
  let workspace ← Main.copyForArguments arguments
  let outcome := Run.program workspace arguments spec?
  IO.eprint (String.ofList outcome.warnings)
  for note in outcome.notes do
    IO.eprint (String.ofList note.written)
  IO.print (String.ofList outcome.output)
  IO.eprint (String.ofList outcome.errors)
  if (outcome.errors.getLast?.getD '\n') ≠ '\n' then
    IO.eprintln ""
  return (outcome.code.getD 1).toUInt32

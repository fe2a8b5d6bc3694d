import RuleDigest.CommandLine.Parser
import RuleDigest.CommandLine.Usage
import RuleDigest.Failure
import RuleDigest.Log.Filter
import RuleDigest.Report

/-!
The program: from arguments and a workspace to an exit code and what is printed.

Nothing is printed of a summary before the whole of it is known, so a run either
prints all of it or nothing.
-/

namespace RuleDigest

/-- What a run leaves behind, or has left behind while it waits. -/
structure Outcome where
  /-- The exit code.  A run that waits without an end has none. -/
  code : Option Nat
  output : Text
  /-- What is said about the specification of notes, before all else. -/
  warnings : Text
  /-- The notes that are shown, in the order in which they were made. -/
  notes : List Log.Event
  /-- What is printed of a failure, after all else. -/
  errors : Text
  /-- The fault in a document that is described after that. -/
  fault? : Option ConfigFault
  deriving Repr

namespace Outcome

/-- A run ends with some output and nothing else. -/
def printed (code : Nat) (output : Text) : Outcome :=
  ⟨some code, output, [], [], [], none⟩

/-- A command line is refused. -/
def refused (error : CommandLine.UsageError) : Outcome :=
  ⟨some 2, [], [], [], error.report, none⟩

/-- A run fails, or waits. -/
def failed (failure : Failure) : Outcome :=
  if failure.waits then ⟨none, [], [], [], [], none⟩
  else ⟨some 1, [], [], [], failure.report, failure.fault?⟩

/-- The error stream.  The characters that begin a note are marked. -/
def errorStream (outcome : Outcome) : List (Bool × Char) :=
  let unmarked (text : Text) := text.map fun char => (false, char)
  let note (text : Text) := text.mapIdx fun index char => (index == 0, char)
  unmarked outcome.warnings ++ outcome.notes.flatMap (note ·.written) ++ unmarked outcome.errors

/-- The lines of the error stream with their ends, those that begin with a note
apart from the others. -/
def errorLines (outcome : Outcome) : List Text × List Text :=
  let lines := outcome.errorStream.splitBy fun first _ => first.2 != '\n'
  let (notes, others) := lines.partition fun line => line.head?.any (·.1)
  (notes.map (·.map (·.2)), others.map (·.map (·.2)))

/-- The lines that begin with a note, without their ends and in ascending order of
their bytes. -/
def noteLines (outcome : Outcome) : List Text :=
  (outcome.errorLines.1.map fun line => line.filter (· != '\n')).mergeSort
    fun first second => Utf8.encode first ≤ Utf8.encode second

/-- The error stream without the lines that begin with a note. -/
def errorText (outcome : Outcome) : Text :=
  outcome.errorLines.2.flatten

end Outcome

namespace Run

open Log (Event Filter)

/-- What a run is to do, once its two positional arguments are there. -/
structure Job where
  statistic : Text
  resultsDir : Bytes
  rulesDir? : Option Bytes
  header : Bool
  json : Bool
  deriving DecidableEq, Repr

/-- The job that options describe, if both positional arguments are there. -/
def job? (options : CommandLine.Options) : Option Job :=
  match options.statistic?, options.resultsDir? with
  | some statistic, some resultsDir =>
      some ⟨statistic, resultsDir, options.rulesDir?, options.header, options.json⟩
  | _, _ => none

/-! ## The job -/

/-- The configuration under which a job is done: that of the working directory,
with the rules directory that the job names, if it names one. -/
def configuration (workspace : Workspace) (job : Job) : Except ConfigError Config :=
  (Config.load workspace Path.dot).map fun config => config.withRulesDir job.rulesDir?

def summarize (workspace : Workspace) (job : Job) : Except Failure Summary :=
  match configuration workspace job with
  | .error error => .error (.config error)
  | .ok config =>
      (Summary.aggregate workspace config job.statistic job.resultsDir).mapError
        (.collect job.statistic)

def render (job : Job) (summary : Summary) : Text :=
  let report : Report := ⟨job.statistic, summary, job.header⟩
  if job.json then report.toJson ++ ['\n'] else report.toLines

/-! ## What is noted on the way -/

/-- The note on loading the configuration. -/
def configNotes (workspace : Workspace) : List Event :=
  let path := Layout.configFile Path.dot
  if workspace.resolves path then
    match Config.load workspace Path.dot with
    | .ok _ => [.configLoaded path]
    | .error _ => []
  else [.configAbsent path]

/-- The notes on scanning a rules directory. -/
def scanNotes (workspace : Workspace) (root : Bytes) : List Event :=
  match RuleSet.listing workspace root with
  | .error _ => []
  | .ok names =>
      let (rules, others) := names.partition (RuleSet.isRule workspace root)
      others.map (fun name => .entrySkipped (Path.join root name)) ++
        [.rulesFound rules.length root]

/-- The notes on reading result files, up to the first that cannot be read. -/
def resultNotes (workspace : Workspace) (resultsDir : Bytes) (key : Text) : List Rule → List Event
  | [] => []
  | rule :: rest =>
      let path := rule.resultPath resultsDir
      match ResultText.readValue workspace path key with
      | .error _ => []
      | .ok (some value) =>
          .valueFound path key value :: resultNotes workspace resultsDir key rest
      | .ok none => .valueAbsent path key :: resultNotes workspace resultsDir key rest

def jobNotes (workspace : Workspace) (job : Job) : List Event :=
  configNotes workspace ++
    match configuration workspace job with
    | .error _ => []
    | .ok config =>
        .collecting job.statistic job.resultsDir config.rulesDir ::
          scanNotes workspace config.rulesDir ++
          match RuleSet.scan workspace config.rulesDir with
          | .error _ => []
          | .ok ruleSet => resultNotes workspace job.resultsDir job.statistic ruleSet.rules

/-- The notes on a run, of which none concerns a job that is not there. -/
def notes (workspace : Workspace) (options : CommandLine.Options) : List Event :=
  (if options.extra.isEmpty then [] else [.extraIgnored options.extra]) ++
    match job? options with
    | some job => jobNotes workspace job
    | none => []

/-! ## The run -/

/-- The notes that are shown, and the parts of the specification that mean nothing. -/
def filter (options : CommandLine.Options) (spec? : Option Text) : Filter × List Log.SpecFault :=
  match spec? with
  | some spec => Filter.ofSpec spec
  | none => (Filter.usual options.verbose, [])

def warnings (faults : List Log.SpecFault) : Text :=
  faults.flatMap fun fault =>
    "warning: ".toList ++ fault.message ++ ", ignoring it\n".toList

/-- The outcome of a job, but for what is noted of it. -/
def conclude (job : Job) : Except Failure Summary → Outcome
  | .ok summary => .printed 0 (render job summary)
  | .error failure => .failed failure

/-- The outcome of a run with given options, but for what is noted of it. -/
def perform (workspace : Workspace) (options : CommandLine.Options) : Outcome :=
  match job? options with
  | none => .printed 1 CommandLine.usage
  | some job => conclude job (summarize workspace job)

/-- Run the program. -/
def program (workspace : Workspace) (arguments : List Bytes) (spec? : Option Text) : Outcome :=
  match CommandLine.parse arguments with
  | .error error => .refused error
  | .ok (.help full) =>
      .printed 0 (if full then CommandLine.fullHelp else CommandLine.briefHelp)
  | .ok .version => .printed 0 CommandLine.version
  | .ok (.run options) =>
      let (filter, faults) := filter options spec?
      { perform workspace options with
        warnings := warnings faults
        notes := (notes workspace options).filter filter.shows }

end Run

end RuleDigest

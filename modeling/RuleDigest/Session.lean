import RuleDigest.Run
import RuleDigest.Workspace.Edit

/-!
A session: requests answered one after the other, over a workspace that edits
change between them.

It remembers the configuration, the rule set and the summary that came last.  A
request that fails leaves all of them as they were.
-/

namespace RuleDigest

/-- What a session remembers between requests. -/
structure Session where
  workspace : Workspace
  config : Config
  /-- Nothing has been scanned at first. -/
  ruleSet? : Option RuleSet
  summary : Summary
  deriving Repr

namespace Session

inductive Request where
  | edit (edit : Edit)
  | scan (root : Bytes)
  | readValue (path : Bytes) (key : Text)
  | loadConfig (directory : Bytes)
  | withRulesDir (override? : Option Bytes)
  /-- Collect from the rules scanned last. -/
  | collect (resultsDir : Bytes) (key missingValue : Text)
  /-- Scan and collect under the configuration in force. -/
  | aggregate (key : Text) (resultsDir : Bytes)
  | get (name : Bytes)
  | summary
  | report (statistic : Text) (header : Bool)
  /-- Run the whole program in the workspace. -/
  | run (arguments : List Bytes) (spec? : Option Text)
  deriving Repr

inductive Answer where
  | done
  | ruleSet (ruleSet : RuleSet)
  | value (value? : Option Text)
  | config (config : Config)
  | summary (summary : Summary)
  | report (report : Report)
  | outcome (outcome : Outcome)
  /-- There is no rule set to collect from. -/
  | noRules
  | scanFailed (error : ScanError)
  | resultFailed (error : ResultError)
  | configFailed (error : ConfigError)
  deriving Repr

/-- At the beginning the workspace is empty and the configuration the default. -/
def start : Session :=
  ⟨.empty, .default, none, .empty⟩

/-- Take a summary over, or report why there is none. -/
def takeSummary (session : Session) : Except CollectError Summary → Session × Answer
  | .ok summary => ({ session with summary }, .summary summary)
  | .error (.scan error) => (session, .scanFailed error)
  | .error (.result error) => (session, .resultFailed error)

def answer (session : Session) : Request → Session × Answer
  | .edit edit => ({ session with workspace := session.workspace.edited edit }, .done)
  | .scan root =>
      match RuleSet.scan session.workspace root with
      | .ok ruleSet => ({ session with ruleSet? := some ruleSet }, .ruleSet ruleSet)
      | .error error => (session, .scanFailed error)
  | .readValue path key =>
      match ResultText.readValue session.workspace path key with
      | .ok value? => (session, .value value?)
      | .error error => (session, .resultFailed error)
  | .loadConfig directory =>
      match Config.load session.workspace directory with
      | .ok config => ({ session with config }, .config config)
      | .error error => (session, .configFailed error)
  | .withRulesDir override? =>
      let config := session.config.withRulesDir override?
      ({ session with config }, .config config)
  | .collect resultsDir key missingValue =>
      match session.ruleSet? with
      | none => (session, .noRules)
      | some ruleSet =>
          session.takeSummary
            ((Summary.collect session.workspace ruleSet.rules resultsDir key
              missingValue).mapError .result)
  | .aggregate key resultsDir =>
      session.takeSummary (Summary.aggregate session.workspace session.config key resultsDir)
  | .get name => (session, .value (session.summary.get? name))
  | .summary => (session, .summary session.summary)
  | .report statistic header => (session, .report ⟨statistic, session.summary, header⟩)
  | .run arguments spec? =>
      (session, .outcome (Run.program session.workspace arguments spec?))

def answers (session : Session) : List Request → List Answer
  | [] => []
  | request :: rest =>
      let (session, answer) := session.answer request
      answer :: answers session rest

end Session

end RuleDigest

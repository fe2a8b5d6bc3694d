import RuleDigest.Proofs.CommandLine.Answers
import RuleDigest.Proofs.Config.Loading
import RuleDigest.Proofs.Summary.Collection
import RuleDigest.Run

/-!
# The stages of a job

A job loads the configuration, scans the rules directory and reads the result files, each stage
only after the ones before it.  It comes to a summary of all rules, or to the first stage that
fails, or to a pipe on which it waits.
-/

namespace RuleDigest.Run

open CommandLine

/-! ## Stages -/

/-- The rules directory in force: that of the job or else that of the configuration. -/
def Job.rulesDirUnder (job : Job) (config : Config) : Bytes :=
  job.rulesDir?.getD config.rulesDir

/-- All stages of a job succeed. -/
def Completes (workspace : Workspace) (job : Job) : Prop :=
  ∃ config ruleSet, Config.load workspace Path.dot = .ok config ∧
    RuleSet.scan workspace (job.rulesDirUnder config) = .ok ruleSet ∧
    ∀ rule ∈ ruleSet.rules, ∃ text, workspace.HoldsText (rule.resultPath job.resultsDir) text

/-- All stages of a job succeed, with a summary of all rules. -/
def Succeeds (workspace : Workspace) (job : Job) (summary : Summary) : Prop :=
  ∃ config ruleSet, Config.load workspace Path.dot = .ok config ∧
    RuleSet.scan workspace (job.rulesDirUnder config) = .ok ruleSet ∧
    (∀ rule ∈ ruleSet.rules, ∃ text,
      workspace.HoldsText (rule.resultPath job.resultsDir) text) ∧
    Summary.Covers workspace job.resultsDir job.statistic config.missingValue ruleSet.rules summary

/-- The first stage of a job that does not succeed, with what keeps it from that. -/
inductive Fails (workspace : Workspace) (job : Job) : Failure → Prop where
  | load {error : ConfigError} :
      Config.load workspace Path.dot = .error error → Fails workspace job (.config error)
  | scan {config : Config} {error : ScanError} :
      Config.load workspace Path.dot = .ok config →
      RuleSet.scan workspace (job.rulesDirUnder config) = .error error →
      Fails workspace job (.collect job.statistic (.scan error))
  | read {config : Config} {ruleSet : RuleSet} {error : ResultError} :
      Config.load workspace Path.dot = .ok config →
      RuleSet.scan workspace (job.rulesDirUnder config) = .ok ruleSet →
      Summary.StopsAt workspace job.resultsDir ruleSet.rules error →
      Fails workspace job (.collect job.statistic (.result error))

/-- A job comes to a pipe, into which nobody writes. -/
inductive Stalls (workspace : Workspace) (job : Job) : Prop where
  | load : workspace.stat (Layout.configFile Path.dot) = .ok .pipe → Stalls workspace job
  | read {config : Config} {ruleSet : RuleSet} {before after : List Rule} {rule : Rule} :
      Config.load workspace Path.dot = .ok config →
      RuleSet.scan workspace (job.rulesDirUnder config) = .ok ruleSet →
      ruleSet.rules = before ++ rule :: after →
      (∀ earlier ∈ before, ∃ text,
        workspace.HoldsText (earlier.resultPath job.resultsDir) text) →
      workspace.stat (rule.resultPath job.resultsDir) = .ok .pipe → Stalls workspace job

variable {workspace : Workspace} {job : Job}

theorem withRulesDir_rulesDir (config : Config) :
    (config.withRulesDir job.rulesDir?).rulesDir = job.rulesDirUnder config := by
  unfold Config.withRulesDir Job.rulesDirUnder
  cases job.rulesDir? <;> rfl

theorem withRulesDir_missingValue (config : Config) :
    (config.withRulesDir job.rulesDir?).missingValue = config.missingValue := by
  unfold Config.withRulesDir
  cases job.rulesDir? <;> rfl

theorem summarize_of_load_error {error : ConfigError}
    (failed : Config.load workspace Path.dot = .error error) :
    summarize workspace job = .error (.config error) := by
  simp only [summarize, configuration, failed, Except.map]

theorem summarize_of_scan_error {config : Config} {error : ScanError}
    (loaded : Config.load workspace Path.dot = .ok config)
    (failed : RuleSet.scan workspace (job.rulesDirUnder config) = .error error) :
    summarize workspace job = .error (.collect job.statistic (.scan error)) := by
  simp only [summarize, configuration, loaded, Except.map, Summary.aggregate,
    withRulesDir_rulesDir, failed]
  rfl

theorem summarize_of_scan {config : Config} {ruleSet : RuleSet}
    (loaded : Config.load workspace Path.dot = .ok config)
    (scanned : RuleSet.scan workspace (job.rulesDirUnder config) = .ok ruleSet) :
    summarize workspace job =
      (Summary.collect workspace ruleSet.rules job.resultsDir job.statistic
        config.missingValue).mapError fun error => .collect job.statistic (.result error) := by
  simp only [summarize, configuration, loaded, Except.map, Summary.aggregate,
    withRulesDir_rulesDir, withRulesDir_missingValue, scanned]
  cases Summary.collect workspace ruleSet.rules job.resultsDir job.statistic config.missingValue
  · rfl
  · rfl

/-- A job leads to a summary of all rules or to the failure of its first stage that fails. -/
theorem summarize_cases (workspace : Workspace) (job : Job) :
    (∃ summary, summarize workspace job = .ok summary ∧ Succeeds workspace job summary) ∨
      ∃ failure, summarize workspace job = .error failure ∧ Fails workspace job failure := by
  cases loaded : Config.load workspace Path.dot with
  | error error => exact .inr ⟨_, summarize_of_load_error loaded, .load loaded⟩
  | ok config =>
      cases scanned : RuleSet.scan workspace (job.rulesDirUnder config) with
      | error error => exact .inr ⟨_, summarize_of_scan_error loaded scanned, .scan loaded scanned⟩
      | ok ruleSet =>
          have summarized := summarize_of_scan loaded scanned
          cases collected : Summary.collect workspace ruleSet.rules job.resultsDir job.statistic
              config.missingValue with
          | error error =>
              rw [collected] at summarized
              have stops := Summary.stopsAt_of_collectInto_error collected
              exact .inr ⟨_, summarized, .read loaded scanned stops⟩
          | ok summary =>
              rw [collected] at summarized
              refine .inl ⟨summary, summarized, config, ruleSet, loaded, scanned, ?_, ?_⟩
              · exact Summary.collect_ok_iff.1 ⟨summary, collected⟩
              · exact Summary.covers_of_collect (RuleSet.rules_nodup scanned) collected

theorem succeeds_of_summarize {summary : Summary}
    (summarized : summarize workspace job = .ok summary) : Succeeds workspace job summary := by
  rcases summarize_cases workspace job with ⟨_, done, succeeds⟩ | ⟨_, failed, _⟩
  · rw [done, Except.ok.injEq] at summarized
    rwa [← summarized]
  · rw [failed] at summarized
    cases summarized

theorem fails_of_summarize {failure : Failure}
    (summarized : summarize workspace job = .error failure) : Fails workspace job failure := by
  rcases summarize_cases workspace job with ⟨_, done, _⟩ | ⟨_, failed, fails⟩
  · rw [done] at summarized
    cases summarized
  · rw [failed, Except.error.injEq] at summarized
    rwa [← summarized]

theorem Succeeds.completes {summary : Summary} (succeeds : Succeeds workspace job summary) :
    Completes workspace job := by
  obtain ⟨config, ruleSet, loaded, scanned, readable, _⟩ := succeeds
  exact ⟨config, ruleSet, loaded, scanned, readable⟩

theorem Fails.summarize_eq {failure : Failure} (fails : Fails workspace job failure) :
    summarize workspace job = .error failure := by
  cases fails with
  | load failed => exact summarize_of_load_error failed
  | scan loaded failed => exact summarize_of_scan_error loaded failed
  | read loaded scanned stops =>
      rw [summarize_of_scan loaded scanned, Summary.collect, Summary.collectInto_of_stopsAt stops]
      rfl

theorem Completes.exists_summary (completes : Completes workspace job) :
    ∃ summary, summarize workspace job = .ok summary := by
  obtain ⟨config, ruleSet, loaded, scanned, readable⟩ := completes
  obtain ⟨summary, collected⟩ := Summary.collect_ok_iff.2 readable
  refine ⟨summary, ?_⟩
  rw [summarize_of_scan loaded scanned, collected]
  rfl

theorem Completes.not_fails {failure : Failure} (completes : Completes workspace job) :
    ¬ Fails workspace job failure := by
  intro fails
  obtain ⟨summary, summarized⟩ := completes.exists_summary
  rw [fails.summarize_eq] at summarized
  cases summarized

/-- A stage that does not succeed waits exactly if it has come to a pipe. -/
theorem stalls_iff :
    Stalls workspace job ↔ ∃ failure, Fails workspace job failure ∧ failure.waits = true := by
  constructor
  · intro stalls
    cases stalls with
    | load isPipe => exact ⟨_, .load (Config.load_of_pipe isPipe), rfl⟩
    | @read config ruleSet before after rule loaded scanned split readable isPipe =>
        have lacks := Workspace.lacksText_waits_iff.2 isPipe
        have stops : Summary.StopsAt workspace job.resultsDir ruleSet.rules
            ⟨rule.resultPath job.resultsDir, .waits⟩ :=
          ⟨before, rule, after, split, readable, rfl, lacks⟩
        exact ⟨_, .read loaded scanned stops, rfl⟩
  · rintro ⟨failure, fails, waits⟩
    cases fails with
    | @load error failed =>
        cases error with
        | invalid path fault => cases waits
        | unreadable path fault =>
            cases fault with
            | refused cause => cases waits
            | waits =>
                obtain ⟨rfl, _, lacks⟩ := Config.load_eq_unreadable_iff.1 failed
                exact .load (Workspace.lacksText_waits_iff.1 lacks)
    | scan loaded failed => cases waits
    | @read config ruleSet error loaded scanned stops =>
        obtain ⟨before, rule, after, split, readable, _, lacks⟩ := stops
        obtain ⟨path, fault⟩ := error
        cases fault with
        | refused cause => cases waits
        | waits => exact .read loaded scanned split readable (Workspace.lacksText_waits_iff.1 lacks)

/-- Only one stage is the first that does not succeed. -/
theorem Fails.unique {first second : Failure} (fails : Fails workspace job first)
    (otherFails : Fails workspace job second) : second = first := by
  have same := fails.summarize_eq
  rw [otherFails.summarize_eq, Except.error.injEq] at same
  exact same

/-! ## The job of a command line -/

/-- A command line with at least two positional arguments orders a job. -/
structure Orders (arguments : List Bytes) (job : Job) : Prop where
  statistic : (positionals (parts arguments))[0]? = some (Utf8.encode job.statistic)
  resultsDir : (positionals (parts arguments))[1]? = some job.resultsDir
  rulesDir : rulesDirs (parts arguments) = job.rulesDir?.toList
  header : job.header = true ↔ .header ∈ flags (parts arguments)
  json : job.json = true ↔ .json ∈ flags (parts arguments)

theorem Orders.enough {arguments : List Bytes} {job : Job} (orders : Orders arguments job) :
    2 ≤ (positionals (parts arguments)).length :=
  (List.getElem?_eq_some_iff.1 orders.resultsDir).1

theorem Orders.unique {arguments : List Bytes} {first second : Job}
    (orders : Orders arguments first) (otherOrders : Orders arguments second) :
    first = second := by
  obtain ⟨statistic, resultsDir, rulesDir, header, json⟩ := orders
  obtain ⟨otherStatistic, otherResultsDir, otherRulesDir, otherHeader, otherJson⟩ := otherOrders
  have sameStatistic : first.statistic = second.statistic := by
    apply Utf8.encode_injective
    rw [← Option.some_inj, ← statistic, ← otherStatistic]
  have sameResultsDir : first.resultsDir = second.resultsDir := by
    rw [← Option.some_inj, ← resultsDir, ← otherResultsDir]
  have sameRulesDir : first.rulesDir? = second.rulesDir? := by
    rw [← first.rulesDir?.head?_toList, ← rulesDir, otherRulesDir, Option.head?_toList]
  have sameHeader : first.header = second.header := by
    rw [Bool.eq_iff_iff, header, otherHeader]
  have sameJson : first.json = second.json := by
    rw [Bool.eq_iff_iff, json, otherJson]
  cases first
  cases second
  rw [Job.mk.injEq]
  exact ⟨sameStatistic, sameResultsDir, sameRulesDir, sameHeader, sameJson⟩

section Accepted

variable {arguments : List Bytes} {options : Options}

theorem job?_eq_none (describes : Describes options (parts arguments))
    (few : (positionals (parts arguments)).length < 2) : job? options = none := by
  have absent : options.resultsDir? = none := by
    rw [describes.resultsDir, List.getElem?_eq_none_iff]
    omega
  unfold job?
  rw [absent]
  cases options.statistic? <;> rfl

theorem exists_job (describes : Describes options (parts arguments))
    (enough : 2 ≤ (positionals (parts arguments)).length) :
    ∃ job, job? options = some job ∧ Orders arguments job := by
  have statisticGiven := describes.statistic
  have resultsDirGiven := describes.resultsDir
  have isOn (flag : Flag) : flag ∈ options.flags ↔ flag ∈ flags (parts arguments) :=
    describes.flags.mem_iff
  cases values : positionals (parts arguments) with
  | nil => simp [values] at enough
  | cons first others =>
      cases others with
      | nil => simp [values] at enough
      | cons second rest =>
          rw [values] at statisticGiven resultsDirGiven
          obtain ⟨statistic, statisticSome, same⟩ := Option.map_eq_some_iff.1 statisticGiven
          refine ⟨⟨statistic, second, options.rulesDir?, options.header, options.json⟩, ?_, ?_⟩
          · rw [job?, statisticSome, resultsDirGiven]
            rfl
          · refine ⟨?_, ?_, describes.rulesDir.symm, ?_, ?_⟩
            · rw [values, same]
              rfl
            · rw [values]
              rfl
            · rw [← isOn]
              simp [Options.flags, switches]
            · rw [← isOn]
              simp [Options.flags, switches]

end Accepted

end RuleDigest.Run

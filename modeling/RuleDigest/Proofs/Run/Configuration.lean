import RuleDigest.Proofs.Config.Loading
import RuleDigest.Proofs.Run.Presentation

/-!
# The configuration of a run

A run is done with the rules directory of its command line or else that of the configuration
file or else the usual one, and with the missing value of the configuration file or else the
usual one.  A configuration file that is spoiled ends it before anything else is looked at.
-/

namespace RuleDigest.Run

open CommandLine

/-- The configuration file of the working directory. -/
def configPath : Bytes :=
  Utf8.ofString "./rulestat.toml"

/-- The configuration that a job is done with, given what the configuration file sets. -/
def Job.configurationUnder (job : Job) (settings : ConfigField → Option Text) : Config :=
  { rulesDir :=
      match job.rulesDir?, settings .rulesDir with
      | some chosen, _ => chosen
      | none, some configured => Utf8.encode configured
      | none, none => Utf8.ofString "RuleSets"
    missingValue :=
      match settings .missingValue with
      | some configured => configured
      | none => "none".toList }

section Jobs

variable {workspace : Workspace} {job : Job} {settings : ConfigField → Option Text}

theorem configFile_dot : Layout.configFile Path.dot = configPath := rfl

theorem configuration_of_configures
    (configures : Config.Configures workspace configPath settings) :
    configuration workspace job = .ok (job.configurationUnder settings) := by
  rw [← configFile_dot] at configures
  rw [configuration, Config.load_of_configures configures]
  unfold Config.withRulesDir Job.configurationUnder Config.ofTexts Except.map
  dsimp only
  cases job.rulesDir? with
  | some chosen => cases settings .missingValue <;> rfl
  | none =>
      cases settings .rulesDir with
      | some configured => cases settings .missingValue <;> rfl
      | none => cases settings .missingValue <;> rfl

theorem summarize_of_configures
    (configures : Config.Configures workspace configPath settings) :
    summarize workspace job =
      (Summary.aggregate workspace (job.configurationUnder settings) job.statistic
        job.resultsDir).mapError (.collect job.statistic) := by
  rw [summarize, configuration_of_configures configures]

theorem decodeLossy_configPath : Utf8.decodeLossy configPath = "./rulestat.toml".toList := rfl

/-- A configuration file that is spoiled is named with what keeps it from being read, or before the
description of what is wrong in it. -/
theorem conclude_of_spoiled (spoiled : Config.Spoiled workspace configPath) :
    (∃ cause : IoError, conclude job (summarize workspace job) =
        ⟨some 1, [], [], [], "error: cannot read config ./rulestat.toml: ".toList ++ cause.message ++
          "\n".toList, none⟩) ∨
      ∃ fault, conclude job (summarize workspace job) =
        ⟨some 1, [], [], [], "error: invalid config ./rulestat.toml".toList, some fault⟩ := by
  rw [← configFile_dot] at spoiled
  rcases Config.load_of_spoiled spoiled with ⟨cause, failed⟩ | ⟨fault, failed⟩
  · rw [configFile_dot] at failed
    have opening : "error: cannot read config ./rulestat.toml: ".toList =
        "error: ".toList ++ ("cannot read config ".toList ++ "./rulestat.toml".toList ++
          ": ".toList) := rfl
    have spelled : (ConfigError.unreadable configPath (.refused cause)).Spelled _ := .unreadable
    rw [decodeLossy_configPath] at spelled
    refine .inl ⟨cause, ?_⟩
    rw [summarize_of_load_error failed, conclude_of_ends rfl, spelled.report_eq, opening]
    simp only [List.append_assoc]
    rfl
  · rw [configFile_dot] at failed
    have opening : "error: invalid config ./rulestat.toml".toList =
        "error: ".toList ++ ("invalid config ".toList ++ "./rulestat.toml".toList) := rfl
    have spelled : (ConfigError.invalid configPath fault).Spelled _ := .invalid
    rw [decodeLossy_configPath] at spelled
    refine .inr ⟨fault, ?_⟩
    rw [summarize_of_load_error failed, conclude_of_ends rfl, spelled.report_eq, opening]
    rfl

end Jobs

/-- What the configuration file sets takes effect unless the command line says otherwise.  A
run without a configuration file is one whose file sets nothing, and one with a spoiled file
fails, whatever else is ordered and whatever else the workspace holds.  A configuration file that
is a pipe sets nothing and is not spoiled. -/
theorem program_is_configured {arguments : List Bytes} (accepts : Accepts arguments)
    (enough : 2 ≤ (positionals (parts arguments)).length) (workspace : Workspace)
    (spec? : Option Text) :
    let outcome := program workspace arguments spec?
    ∃ job, Orders arguments job ∧
      (∀ settings, Config.Configures workspace configPath settings →
        let aggregated := Summary.aggregate workspace (job.configurationUnder settings)
          job.statistic job.resultsDir
        (∀ summary, aggregated = .ok summary →
          outcome.code = some 0 ∧ outcome.errorOutput = outcome.logged ∧
            outcome.output = render job summary ∧
            ∃ columns : List (Rule × Text),
              summary.entries =
                columns.map (fun column => (column.1.resultFileName, column.2)) ∧
              Prints job columns outcome.output) ∧
        ∀ error, aggregated = .error error →
          outcome.output = [] ∧
            (error.waits = false → outcome.code = some 1 ∧ ∃ text, error.Spelled text ∧
              outcome.errorOutput = outcome.logged ++ ("error: failed to collect '".toList ++
                job.statistic ++ "': ".toList ++ text)) ∧
            (error.waits = true → outcome.code = none ∧ outcome.errorOutput = outcome.logged)) ∧
      (Config.Spoiled workspace configPath →
        outcome.code = some 1 ∧ outcome.output = [] ∧
          ((∃ cause : IoError, outcome.fault? = none ∧
              outcome.errorOutput = outcome.logged ++
                ("error: cannot read config ./rulestat.toml: ".toList ++ cause.message ++
                  "\n".toList)) ∨
            ∃ fault, outcome.fault? = some fault ∧
              outcome.errorOutput =
                outcome.logged ++ "error: invalid config ./rulestat.toml".toList)) ∧
      ((∃ settings, Config.Configures workspace configPath settings) ↔
        ¬ Config.Spoiled workspace configPath ∧ workspace.stat configPath ≠ .ok .pipe) ∧
      (workspace.isDirectory configPath = true → Config.Spoiled workspace configPath) ∧
      (program workspace arguments none).warnings = [] := by
  intro outcome
  have ⟨options, accepted⟩ := accepts
  obtain ⟨job, _, orders⟩ := exists_job (describes_of_parse accepted) enough
  have alike := program_of_orders accepts orders workspace spec?
  refine ⟨job, orders, ?_, ?_, Config.exists_configures_iff workspace Path.dot,
    Config.spoiled_of_isDirectory, warnings_of_no_spec workspace arguments⟩
  · intro settings configures aggregated
    have summarized := @summarize_of_configures workspace job settings configures
    constructor
    · intro summary collected
      have done : summarize workspace job = .ok summary :=
        summarized.trans (congrArg _ collected)
      rw [done] at alike
      obtain ⟨_, _, columns, _, _, entries, _⟩ := (succeeds_of_summarize done).exists_columns
      refine ⟨alike.code, alike.errorOutput_of_silent rfl, alike.output, columns, entries, ?_⟩
      rw [alike.output]
      exact prints_render entries
    · intro error collected
      have failed : summarize workspace job = .error (.collect job.statistic error) :=
        summarized.trans (congrArg _ collected)
      rw [failed] at alike
      refine ⟨alike.output.trans (output_of_failed _), ?_, ?_⟩
      · intro ends
        have ended : (Failure.collect job.statistic error).waits = false := ends
        rw [conclude_of_ends ended] at alike
        obtain ⟨text, spelled⟩ := error.exists_spelled ends
        have errorOutput := alike.errorOutput_eq
        rw [spelled.report_eq] at errorOutput
        exact ⟨alike.code, text, spelled, errorOutput⟩
      · intro waits
        have waited : (Failure.collect job.statistic error).waits = true := waits
        rw [conclude_of_waits waited] at alike
        exact ⟨alike.code, alike.errorOutput_of_silent rfl⟩
  · intro spoiled
    rcases @conclude_of_spoiled workspace job spoiled with ⟨cause, concluded⟩ | ⟨fault, concluded⟩
    · rw [concluded] at alike
      exact ⟨alike.code, alike.output, .inl ⟨cause, alike.fault, alike.errorOutput_eq⟩⟩
    · rw [concluded] at alike
      exact ⟨alike.code, alike.output, .inr ⟨fault, alike.fault, alike.errorOutput_eq⟩⟩

/-- A project whose configuration file sets both fields, with one rule in the directory that it
names and another one in the usual directory. -/
def tuned : Workspace :=
  .ofFiles
    [("rulestat.toml", "missing_value = \"?\"\nrules_dir = \"Q\"\n"), ("Q/a", ""),
      ("RuleSets/b", ""), ("R/a.result", ""), ("R/b.result", "k: 1")]

/-- What the configuration file of that project sets. -/
def tunedSettings : List (ConfigField × Text) :=
  [(.missingValue, "?".toList), (.rulesDir, "Q".toList)]

theorem program_is_configured_tuned :
    let plain := [Utf8.ofString "k", Utf8.ofString "R"]
    let directed := Utf8.ofString "--rules-dir=RuleSets" :: plain
    let astray := [Utf8.ofString "k", Utf8.ofString "S"]
    let blocked := Workspace.ofFiles [("rulestat.toml/x", "")]
    (Accepts plain ∧ 2 ≤ (positionals (parts plain)).length) ∧
      (Accepts directed ∧ 2 ≤ (positionals (parts directed)).length) ∧
      (Accepts astray ∧ 2 ≤ (positionals (parts astray)).length) ∧
      (∃ settings, Config.Configures tuned configPath settings) ∧
      ((program tuned plain none).output = "?; \n".toList ∧
        (program tuned plain none).errorOutput = []) ∧
      (program tuned directed none).output = "1; \n".toList ∧
      ((program tuned astray none).code = some 1 ∧ (program tuned astray none).output = [] ∧
        (program tuned astray none).errorOutput =
          "error: failed to collect 'k': cannot read result file S/a.result".toList ++
            ": No such file or directory (os error 2)\n".toList) ∧
      (program blocked directed none).code = some 1 ∧
        (program blocked directed none).errorOutput =
          "error: cannot read config ./rulestat.toml: Is a directory (os error 21)\n".toList := by
  intro plain directed astray blocked
  have accepts : Accepts plain := ⟨_, rfl⟩
  have enough : 2 ≤ (positionals (parts plain)).length := by decide
  have directedAccepts : Accepts directed := ⟨_, rfl⟩
  have directedEnough : 2 ≤ (positionals (parts directed)).length := by decide
  have astrayAccepts : Accepts astray := ⟨_, rfl⟩
  have astrayEnough : 2 ≤ (positionals (parts astray)).length := by decide
  have orders : Orders plain ⟨"k".toList, Utf8.ofString "R", none, false, false⟩ :=
    ⟨rfl, rfl, rfl, by decide, by decide⟩
  have directedOrders : Orders directed
      ⟨"k".toList, Utf8.ofString "R", some (Utf8.ofString "RuleSets"), false, false⟩ :=
    ⟨rfl, rfl, rfl, by decide, by decide⟩
  have astrayOrders : Orders astray ⟨"k".toList, Utf8.ofString "S", none, false, false⟩ :=
    ⟨rfl, rfl, rfl, by decide, by decide⟩
  have holds : tuned.HoldsText configPath (Config.document tunedSettings) := rfl
  have configures :=
    Config.configures_of_isDocument holds (Config.isDocument_document tunedSettings) (by decide)
  have found : Summary.aggregate tuned
      (Job.configurationUnder ⟨"k".toList, Utf8.ofString "R", none, false, false⟩
        fun field => tunedSettings.lookup field) "k".toList (Utf8.ofString "R") =
      .ok (Summary.empty.insert (Utf8.ofString "a.result") "?".toList) := rfl
  have otherFound : Summary.aggregate tuned
      (Job.configurationUnder
        ⟨"k".toList, Utf8.ofString "R", some (Utf8.ofString "RuleSets"), false, false⟩
        fun field => tunedSettings.lookup field) "k".toList (Utf8.ofString "R") =
      .ok (Summary.empty.insert (Utf8.ofString "b.result") "1".toList) := rfl
  have lacking : Summary.aggregate tuned
      (Job.configurationUnder ⟨"k".toList, Utf8.ofString "S", none, false, false⟩
        fun field => tunedSettings.lookup field) "k".toList (Utf8.ofString "S") =
      .error (.result ⟨Utf8.ofString "S/a.result", .refused .notFound⟩) := rfl
  refine ⟨⟨accepts, enough⟩, ⟨directedAccepts, directedEnough⟩, ⟨astrayAccepts, astrayEnough⟩,
    ⟨_, configures⟩, ?_, ?_, ?_, ?_⟩
  · obtain ⟨job, ordered, done, _⟩ := program_is_configured accepts enough tuned none
    obtain rfl := ordered.unique orders
    obtain ⟨_, errorOutput, output, _⟩ := (done _ configures).1 _ found
    exact ⟨output, errorOutput.trans (logged_of_quiet (by decide) tuned)⟩
  · obtain ⟨job, ordered, done, _⟩ := program_is_configured directedAccepts directedEnough tuned none
    obtain rfl := ordered.unique directedOrders
    exact ((done _ configures).1 _ otherFound).2.2.1
  · obtain ⟨job, ordered, done, _⟩ := program_is_configured astrayAccepts astrayEnough tuned none
    obtain rfl := ordered.unique astrayOrders
    obtain ⟨output, fails, _⟩ := (done _ configures).2 _ lacking
    obtain ⟨code, text, spelled, errorOutput⟩ := fails rfl
    rw [logged_of_quiet (by decide)] at errorOutput
    refine ⟨code, output, errorOutput.trans ?_⟩
    cases spelled with
    | unread => rfl
  · obtain ⟨job, _, _, spoils, _, isDirectory, _⟩ :=
      program_is_configured directedAccepts directedEnough blocked none
    have errors : (program blocked directed none).errors =
        "error: cannot read config ./rulestat.toml: Is a directory (os error 21)\n".toList := by
      decide +kernel
    refine ⟨(spoils (isDirectory rfl)).1, ?_⟩
    rw [Outcome.errorOutput_eq, logged_of_quiet (by decide), errors, List.nil_append]

end RuleDigest.Run

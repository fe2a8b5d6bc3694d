import RuleDigest.Proofs.Config.Loading
import RuleDigest.Proofs.Run.Presentation
import RuleDigest.Proofs.Text.Lossy

/-!
# What a failure says of its cause

Where the file system refuses a job, the run reports a chain of messages that ends in the
system's own.  Messages about a configuration file and about a result file end in the name of
that file, so the cause comes once.  The message about the listing of a rules directory ends in
the cause itself, which then comes once more.
-/

namespace RuleDigest.Run

open CommandLine

/-! ## Refusals -/

/-- The stages of a job at which the file system is asked for something. -/
inductive Stage where
  | configuration
  | rulesDirectory
  | resultFile
  deriving DecidableEq, Repr

/-- The file system refuses a job something at a stage that the job comes to. -/
inductive Refuses (workspace : Workspace) (job : Job) : Stage → IoError → Prop where
  | configuration {cause : IoError} :
      workspace.resolves (Layout.configFile Path.dot) = true →
      workspace.LacksText (Layout.configFile Path.dot) (.refused cause) →
      Refuses workspace job .configuration cause
  | rulesDirectory {config : Config} {cause : IoError} :
      Config.load workspace Path.dot = .ok config →
      workspace.stat (job.rulesDirUnder config) = .error cause →
      Refuses workspace job .rulesDirectory cause
  | resultFile {config : Config} {ruleSet : RuleSet} {path : Bytes} {cause : IoError} :
      Config.load workspace Path.dot = .ok config →
      RuleSet.scan workspace (job.rulesDirUnder config) = .ok ruleSet →
      Summary.StopsAt workspace job.resultsDir ruleSet.rules ⟨path, .refused cause⟩ →
      Refuses workspace job .resultFile cause

/-- A failure tells of a refusal. -/
inductive Tells : Failure → Stage → IoError → Prop where
  | configuration {cause : IoError} :
      Tells (.config (.unreadable (Layout.configFile Path.dot) (.refused cause))) .configuration
        cause
  | rulesDirectory {statistic : Text} {root : Bytes} {source : WalkError} :
      Tells (.collect statistic (.scan (.unlistable root source))) .rulesDirectory source.cause
  | resultFile {statistic : Text} {rule : Rule} {resultsDir : Bytes} {cause : IoError} :
      Tells (.collect statistic (.result ⟨rule.resultPath resultsDir, .refused cause⟩)) .resultFile
        cause

section Refusals

variable {workspace : Workspace} {job : Job} {failure : Failure} {stage : Stage} {cause : IoError}

theorem Refuses.exists_fails (refuses : Refuses workspace job stage cause) :
    ∃ failure, Fails workspace job failure ∧ Tells failure stage cause := by
  cases refuses with
  | configuration resolves lacks =>
      exact ⟨_, .load (Config.load_of_lacksText resolves lacks), .configuration⟩
  | rulesDirectory loaded unnamed =>
      have listed := RuleSet.listing_of_error unnamed
      have scanned := RuleSet.scan_eq_error_iff.2 listed
      exact ⟨_, .scan loaded scanned, .rulesDirectory⟩
  | resultFile loaded scanned stops =>
      obtain ⟨rule, _, rfl, _⟩ := stops.exists_blamed
      exact ⟨_, .read loaded scanned stops, .resultFile⟩

/-- A job that fails is refused something, or has a configuration that is none, or a rules
directory that is none, unless it waits. -/
theorem Fails.exists_refuses_or (fails : Fails workspace job failure)
    (ends : failure.waits = false) :
    (∃ stage cause, Refuses workspace job stage cause) ∨
      (∃ path fault, failure = .config (.invalid path fault)) ∨
      ∃ root, failure = .collect job.statistic (.scan (.notADirectory root)) := by
  cases fails with
  | @load error failed =>
      cases error with
      | invalid path fault => exact .inr (.inl ⟨path, fault, rfl⟩)
      | unreadable path fault =>
          obtain ⟨rfl, resolves, lacks⟩ := Config.load_eq_unreadable_iff.1 failed
          cases fault with
          | refused cause => exact .inl ⟨_, _, .configuration resolves lacks⟩
          | waits => cases ends
  | @scan config error loaded failed =>
      cases error with
      | notADirectory root => exact .inr (.inr ⟨root, rfl⟩)
      | unlistable root source =>
          have listed := RuleSet.scan_eq_error_iff.1 failed
          obtain ⟨_, cause, unnamed, rfl⟩ := RuleSet.listing_eq_unlistable_iff.1 listed
          exact .inl ⟨_, _, .rulesDirectory loaded unnamed⟩
  | @read config ruleSet error loaded scanned stops =>
      obtain ⟨path, fault⟩ := error
      cases fault with
      | refused cause => exact .inl ⟨_, _, .resultFile loaded scanned stops⟩
      | waits => cases ends

end Refusals

/-! ## Chains of messages -/

/-- No link of a chain ends with the link that follows it. -/
def StatesOnce (chain : List Text) : Prop :=
  chain.IsChain fun link next => ¬ next <:+ link

/-- What a run says of the statistic that it could not collect. -/
def attempt (statistic : Text) : Text :=
  "failed to collect '".toList ++ statistic ++ ['\'']

theorem chain_unreadable (path : Bytes) (cause : IoError) :
    (Failure.config (.unreadable path (.refused cause))).chain =
      [ConfigError.message (.unreadable path (.refused cause)), cause.message] := rfl

theorem chain_unlistable (statistic : Text) (root : Bytes) (source : WalkError) :
    (Failure.collect statistic (.scan (.unlistable root source))).chain =
      [attempt statistic, ScanError.message (.unlistable root source), source.message,
        source.cause.message] := rfl

theorem chain_result (statistic : Text) (path : Bytes) (cause : IoError) :
    (Failure.collect statistic (.result ⟨path, .refused cause⟩)).chain =
      [attempt statistic, ResultError.message ⟨path, .refused cause⟩, cause.message] := rfl

section Links

variable {link next : Text} {char other : Char}

theorem getLast?_of_suffix (suffix : next <:+ link) (last : next.getLast? = some char) :
    link.getLast? = some char := by
  obtain ⟨before, rfl⟩ := suffix
  rw [List.getLast?_append, last, Option.some_or]

theorem not_suffix_of_getLast? (last : link.getLast? = some char)
    (nextLast : next.getLast? = some other) (differ : char ≠ other) : ¬ next <:+ link := by
  intro suffix
  have same := getLast?_of_suffix suffix nextLast
  rw [last, Option.some_inj] at same
  exact differ same

/-- No refusal ends as a quoted statistic or the name of a file does. -/
theorem message_not_suffix (last : link.getLast? = some char) (known : char ∈ ['\'', 't', 'l'])
    (cause : IoError) : ¬ cause.message <:+ link := by
  -- A last character is enough to tell a refusal from what can stand before it.
  have ends : ∃ other, cause.message.getLast? = some other ∧ other ∉ ['\'', 't', 'l'] := by
    cases cause with
    | other description number => exact ⟨')', List.getLast?_concat .., by decide⟩
    | _ => exact ⟨_, rfl, by decide⟩
  obtain ⟨other, messageLast, unknown⟩ := ends
  apply not_suffix_of_getLast? last messageLast
  rintro rfl
  exact unknown known

end Links

section Messages

variable (statistic : Text) (directory resultsDir : Bytes) (rule : Rule) (fault : ReadFault)
  (cause : IoError)

theorem getLast?_attempt : (attempt statistic).getLast? = some '\'' :=
  getLast?_of_suffix (List.suffix_append _ _) rfl

theorem getLast?_configMessage :
    (ConfigError.message (.unreadable (Layout.configFile directory) fault)).getLast? =
      some 'l' := by
  have shown := Utf8.suffix_decodeLossy (Path.suffix_join directory Layout.configName)
  exact getLast?_of_suffix (shown.trans (List.suffix_append _ _)) rfl

theorem getLast?_resultMessage :
    (ResultError.message ⟨rule.resultPath resultsDir, fault⟩).getLast? = some 't' := by
  -- The path need not be a text, but it ends in the encoding of one.
  have ending : Utf8.encode Layout.resultSuffix <:+ rule.resultFileName := List.suffix_append _ _
  have shown := Utf8.suffix_decodeLossy (ending.trans (Path.suffix_join resultsDir _))
  exact getLast?_of_suffix (shown.trans (List.suffix_append _ _)) rfl

theorem message_not_suffix_attempt : ¬ cause.message <:+ attempt statistic :=
  message_not_suffix (getLast?_attempt statistic) (by decide) cause

theorem message_not_suffix_configMessage :
    ¬ cause.message <:+ ConfigError.message (.unreadable (Layout.configFile directory) fault) :=
  message_not_suffix (getLast?_configMessage directory fault) (by decide) cause

theorem message_not_suffix_resultMessage :
    ¬ cause.message <:+ ResultError.message ⟨rule.resultPath resultsDir, fault⟩ :=
  message_not_suffix (getLast?_resultMessage resultsDir rule fault) (by decide) cause

theorem resultMessage_not_suffix_attempt :
    ¬ ResultError.message ⟨rule.resultPath resultsDir, fault⟩ <:+ attempt statistic :=
  not_suffix_of_getLast? (getLast?_attempt statistic)
    (getLast?_resultMessage resultsDir rule fault) (by decide)

theorem message_suffix_walkMessage (source : WalkError) : source.cause.message <:+ source.message :=
  List.suffix_append _ _

end Messages

namespace Tells

variable {failure : Failure} {stage : Stage} {cause : IoError}

theorem ends (tells : Tells failure stage cause) : failure.waits = false := by
  cases tells <;> rfl

theorem report_eq (tells : Tells failure stage cause) :
    failure.report = "error: ".toList ++ ": ".toList.intercalate failure.chain ++ ['\n'] := by
  cases tells <;> rfl

theorem getLast?_chain (tells : Tells failure stage cause) :
    failure.chain.getLast? = some cause.message := by
  cases tells <;> rfl

/-- What comes before the cause does not end with it, unless it is about a rules directory. -/
theorem apart_iff (tells : Tells failure stage cause) :
    (∀ link ∈ failure.chain.dropLast, ¬ cause.message <:+ link) ↔ stage ≠ .rulesDirectory := by
  cases tells with
  | configuration => simp [chain_unreadable, message_not_suffix_configMessage]
  | rulesDirectory => simp [chain_unlistable, message_suffix_walkMessage]
  | resultFile =>
      simp [chain_result, message_not_suffix_attempt, message_not_suffix_resultMessage]

theorem statesOnce_iff (tells : Tells failure stage cause) :
    StatesOnce failure.chain ↔ stage ≠ .rulesDirectory := by
  unfold StatesOnce
  cases tells with
  | configuration => simp [chain_unreadable, message_not_suffix_configMessage]
  | rulesDirectory => simp [chain_unlistable, message_suffix_walkMessage]
  | resultFile =>
      simp [chain_result, resultMessage_not_suffix_attempt, message_not_suffix_resultMessage]

end Tells

/-! ## Runs that are refused something -/

/-- A run to which the file system refuses something fails and prints nothing but a chain of
messages, of which the last is that of the refusal.  No message ends with the one that follows,
and none before the last with that of the refusal, exactly if it is not the rules directory that
is refused.  The same goes for any failure that tells of a refusal, of whatever kind it is.  A run
that fails without a refusal has a configuration that is none or a rules directory that is
none. -/
theorem program_states_cause_once_iff {arguments : List Bytes} (accepts : Accepts arguments)
    (enough : 2 ≤ (positionals (parts arguments)).length) (workspace : Workspace)
    (spec? : Option Text) :
    let outcome := program workspace arguments spec?
    ∃ job, Orders arguments job ∧
      (∀ stage cause, Refuses workspace job stage cause →
        outcome.code = some 1 ∧ outcome.output = [] ∧
          ∃ failure, Fails workspace job failure ∧
            outcome.errors =
              "error: ".toList ++ ": ".toList.intercalate failure.chain ++ ['\n'] ∧
            failure.chain.getLast? = some cause.message ∧
            (StatesOnce failure.chain ↔ stage ≠ .rulesDirectory) ∧
            ((∀ link ∈ failure.chain.dropLast, ¬ cause.message <:+ link) ↔
              stage ≠ .rulesDirectory)) ∧
      (∀ failure stage cause, Tells failure stage cause →
        failure.chain.getLast? = some cause.message ∧
          (StatesOnce failure.chain ↔ stage ≠ .rulesDirectory) ∧
          ((∀ link ∈ failure.chain.dropLast, ¬ cause.message <:+ link) ↔
            stage ≠ .rulesDirectory)) ∧
      (outcome.code = some 1 →
        (∃ stage cause, Refuses workspace job stage cause) ∨
          (∃ path fault, Fails workspace job (.config (.invalid path fault))) ∨
          ∃ root, Fails workspace job (.collect job.statistic (.scan (.notADirectory root)))) := by
  intro outcome
  have ⟨options, accepted⟩ := accepts
  obtain ⟨job, _, orders⟩ := exists_job (describes_of_parse accepted) enough
  have alike := program_of_orders accepts orders workspace spec?
  refine ⟨job, orders, ?_, ?_, ?_⟩
  · intro stage cause refuses
    obtain ⟨failure, fails, tells⟩ := refuses.exists_fails
    rw [fails.summarize_eq, conclude_of_ends tells.ends] at alike
    refine ⟨alike.code, alike.output, failure, fails, alike.errors.trans tells.report_eq, ?_, ?_, ?_⟩
    · exact tells.getLast?_chain
    · exact tells.statesOnce_iff
    · exact tells.apart_iff
  · intro failure stage cause tells
    exact ⟨tells.getLast?_chain, tells.statesOnce_iff, tells.apart_iff⟩
  · intro failed
    rcases summarize_cases workspace job with ⟨summary, summarized, _⟩ |
      ⟨failure, summarized, fails⟩
    · have succeeded := alike.code
      rw [failed, summarized] at succeeded
      cases succeeded
    · cases waits : failure.waits with
      | true =>
          have waiting := alike.code
          rw [failed, summarized, conclude_of_waits waits] at waiting
          cases waiting
      | false =>
          rcases fails.exists_refuses_or waits with refused | ⟨path, fault, rfl⟩ | ⟨root, rfl⟩
          · exact .inl refused
          · exact .inr (.inl ⟨path, fault, fails⟩)
          · exact .inr (.inr ⟨root, fails⟩)

/-- A project with a rule that lacks its result file. -/
def orphaned : Workspace :=
  .ofFiles [("RuleSets/a", ""), ("RuleSets/orphan", ""), ("results/a.result", "score: 5\n")]

/-- A project whose configuration file is a directory. -/
def blocked : Workspace :=
  .ofFiles [("rulestat.toml/x", "")]

/-- A project without a rules directory. -/
def unruled : Workspace :=
  Workspace.empty.edited (.makeDirectory (Utf8.ofString "results"))

theorem program_states_cause_once_iff_refused :
    let arguments := [Utf8.ofString "score", Utf8.ofString "results"]
    let job : Job := ⟨"score".toList, Utf8.ofString "results", none, false, false⟩
    Accepts arguments ∧ 2 ≤ (positionals (parts arguments)).length ∧ Orders arguments job ∧
      Refuses orphaned job .resultFile .notFound ∧ (program orphaned arguments none).code = some 1 ∧
      (∃ failure, Fails orphaned job failure ∧ StatesOnce failure.chain) ∧
      Refuses blocked job .configuration .isADirectory ∧
      (program blocked arguments none).code = some 1 ∧
      (∃ failure, Fails blocked job failure ∧ StatesOnce failure.chain) ∧
      Refuses unruled job .rulesDirectory .notFound ∧ (program unruled arguments none).code = some 1 ∧
      ∃ failure, Fails unruled job failure ∧ ¬ StatesOnce failure.chain := by
  intro arguments job
  have accepts : Accepts arguments := ⟨_, rfl⟩
  have enough : 2 ≤ (positionals (parts arguments)).length := by decide
  have ordered : Orders arguments job := ⟨rfl, rfl, rfl, by decide, by decide⟩
  have states {workspace : Workspace} {stage : Stage} {cause : IoError}
      (refuses : Refuses workspace job stage cause) :
      (program workspace arguments none).code = some 1 ∧
        ∃ failure, Fails workspace job failure ∧
          (StatesOnce failure.chain ↔ stage ≠ .rulesDirectory) := by
    obtain ⟨other, orders, refused, _⟩ :=
      program_states_cause_once_iff accepts enough workspace none
    obtain rfl := orders.unique ordered
    obtain ⟨code, _, failure, fails, _, _, once_iff, _⟩ := refused _ _ refuses
    exact ⟨code, failure, fails, once_iff⟩
  have orphanedRefuses : Refuses orphaned job .resultFile .notFound := by
    have loaded : Config.load orphaned Path.dot = .ok .default := rfl
    have scanned : RuleSet.scan orphaned (job.rulesDirUnder .default) =
        .ok ⟨Layout.rulesDir, [⟨Utf8.ofString "a"⟩, ⟨Utf8.ofString "orphan"⟩]⟩ := rfl
    have held : orphaned.HoldsText (Utf8.ofString "results/a.result") "score: 5\n".toList := rfl
    have lacks : orphaned.LacksText (Utf8.ofString "results/orphan.result")
        (.refused .notFound) := .unread rfl
    have stops : Summary.StopsAt orphaned (Utf8.ofString "results")
        [⟨Utf8.ofString "a"⟩, ⟨Utf8.ofString "orphan"⟩]
        ⟨Utf8.ofString "results/orphan.result", .refused .notFound⟩ :=
      ⟨[_], _, [], rfl, List.forall_mem_singleton.2 ⟨_, held⟩, rfl, lacks⟩
    exact .resultFile loaded scanned stops
  have blockedRefuses : Refuses blocked job .configuration .isADirectory :=
    .configuration rfl (.unread rfl)
  have unruledRefuses : Refuses unruled job .rulesDirectory .notFound := by
    have loaded : Config.load unruled Path.dot = .ok .default := rfl
    exact .rulesDirectory loaded rfl
  obtain ⟨orphanedCode, orphanedFailure, orphanedFails, orphanedStates⟩ := states orphanedRefuses
  obtain ⟨blockedCode, blockedFailure, blockedFails, blockedStates⟩ := states blockedRefuses
  obtain ⟨unruledCode, unruledFailure, unruledFails, unruledStates⟩ := states unruledRefuses
  refine ⟨accepts, enough, ordered, orphanedRefuses, orphanedCode, ⟨_, orphanedFails, ?_⟩,
    blockedRefuses, blockedCode, ⟨_, blockedFails, ?_⟩, unruledRefuses, unruledCode, _,
    unruledFails, ?_⟩
  · exact orphanedStates.2 (by decide)
  · exact blockedStates.2 (by decide)
  · exact mt unruledStates.1 (by decide)

/-- The listing of a rules directory that is not there says why, and so does the next message. -/
theorem program_repeats_cause :
    let arguments := [Utf8.ofString "score", Utf8.ofString "results"]
    let job : Job := ⟨"score".toList, Utf8.ofString "results", none, false, false⟩
    let outcome := program unruled arguments none
    Accepts arguments ∧ Orders arguments job ∧ Refuses unruled job .rulesDirectory .notFound ∧
      outcome.code = some 1 ∧
      ∃ failure, Fails unruled job failure ∧
        outcome.errors = "error: ".toList ++ ": ".toList.intercalate failure.chain ++ ['\n'] ∧
        failure.chain =
          ["failed to collect 'score'".toList, "cannot read rules directory RuleSets".toList,
            ("IO error for operation on RuleSets: " ++
              "No such file or directory (os error 2)").toList,
            "No such file or directory (os error 2)".toList] ∧
        ¬ StatesOnce failure.chain := by
  intro arguments job outcome
  have accepts : Accepts arguments := ⟨_, rfl⟩
  have orders : Orders arguments job := ⟨rfl, rfl, rfl, by decide, by decide⟩
  have loaded : Config.load unruled Path.dot = .ok .default := rfl
  have unnamed : unruled.stat (job.rulesDirUnder .default) = .error .notFound := rfl
  have listed := RuleSet.listing_of_error unnamed
  have fails : Fails unruled job _ := .scan loaded (RuleSet.scan_eq_error_iff.2 listed)
  have alike := program_of_orders accepts orders unruled none
  rw [fails.summarize_eq, conclude_of_ends Tells.rulesDirectory.ends] at alike
  refine ⟨accepts, orders, .rulesDirectory loaded unnamed, alike.code, _, fails,
    alike.errors.trans Tells.rulesDirectory.report_eq, by decide +kernel, ?_⟩
  rw [Tells.rulesDirectory.statesOnce_iff]
  decide

end RuleDigest.Run

import RuleDigest.Proofs.Run.Printing

/-!
# The endings of a run

A run is answered, rejected, reminded of its positional arguments, done or failed, unless it
waits for a pipe.  Which of these it is follows from the arguments and from the stages of a job,
and what is printed from these alone.  Only the last two endings depend on the workspace.
-/

namespace RuleDigest.Run

open CommandLine

/-! ## The endings -/

/-- How a run can end. -/
inductive Ending where
  | answered
  | rejected
  | incomplete
  | complete
  | failed
  deriving DecidableEq, Repr

/-- When a run has an ending. -/
def Occurs (workspace : Workspace) (arguments : List Bytes) : Ending → Prop
  | .answered => ∃ request, Asks arguments request
  | .rejected => ¬ Fits (parts arguments) ∧ ∀ request, ¬ Asks arguments request
  | .incomplete => Fits (parts arguments) ∧ (positionals (parts arguments)).length < 2
  | .complete =>
      Fits (parts arguments) ∧ 2 ≤ (positionals (parts arguments)).length ∧
        ∃ job, Orders arguments job ∧ Completes workspace job
  | .failed =>
      Fits (parts arguments) ∧ 2 ≤ (positionals (parts arguments)).length ∧
        ∃ job failure, Orders arguments job ∧ Fails workspace job failure ∧ failure.waits = false

/-- A run does not end because a stage of its job has come to a pipe. -/
def Waits (workspace : Workspace) (arguments : List Bytes) : Prop :=
  Fits (parts arguments) ∧ 2 ≤ (positionals (parts arguments)).length ∧
    ∃ job, Orders arguments job ∧ Stalls workspace job

/-- A text presents all rules with what is found for them, in the order of their result files. -/
def Presents (workspace : Workspace) (job : Job) (text : Text) : Prop :=
  ∃ config ruleSet columns, Config.load workspace Path.dot = .ok config ∧
    RuleSet.scan workspace (job.rulesDirUnder config) = .ok ruleSet ∧
    (columns.map Prod.fst).Perm ruleSet.rules ∧
    (columns.map fun column => column.1.resultFileName).Pairwise (· < ·) ∧
    (∀ column ∈ columns, Summary.Finds workspace job.resultsDir job.statistic config.missingValue
      column.1 column.2) ∧
    Prints job columns text

/-- What a run with an ending leaves behind. -/
def Leaves (workspace : Workspace) (arguments : List Bytes) (outcome : Outcome) : Ending → Prop
  | .answered => outcome.code = some 0
  | .rejected => outcome.code = some 2 ∧ outcome.output = []
  | .incomplete =>
      outcome.code = some 1 ∧ outcome.output = "rulestat <Stat> <Result-Folder>\n".toList
  | .complete =>
      outcome.code = some 0 ∧ outcome.errorOutput = outcome.logged ∧
        ∃ job, Orders arguments job ∧ Presents workspace job outcome.output
  | .failed =>
      outcome.code = some 1 ∧ outcome.output = [] ∧
        ∃ job failure text, Orders arguments job ∧ Fails workspace job failure ∧
          failure.Spelled text ∧ "error: ".toList <+: text ∧
          outcome.errorOutput = outcome.logged ++ text ∧ outcome.fault? = failure.fault?

/-- The command line is accepted as that of a run. -/
def Accepts (arguments : List Bytes) : Prop :=
  ∃ options, parse arguments = .ok (.run options)

section Endings

variable {workspace : Workspace} {arguments : List Bytes} {job : Job} {ending : Ending}

theorem Occurs.eq_answered {request : Request} (occurs : Occurs workspace arguments ending)
    (asks : Asks arguments request) : ending = .answered := by
  cases ending with
  | answered => rfl
  | rejected => exact absurd asks (occurs.2 request)
  | incomplete | complete | failed => exact absurd asks occurs.1.not_asks

theorem Occurs.eq_rejected (occurs : Occurs workspace arguments ending)
    (unfit : ¬ Fits (parts arguments)) (silent : ∀ request, ¬ Asks arguments request) :
    ending = .rejected := by
  cases ending with
  | rejected => rfl
  | answered =>
      obtain ⟨request, asks⟩ := occurs
      exact absurd asks (silent request)
  | incomplete | complete | failed => exact absurd occurs.1 unfit

theorem Occurs.eq_incomplete (occurs : Occurs workspace arguments ending)
    (fits : Fits (parts arguments)) (few : (positionals (parts arguments)).length < 2) :
    ending = .incomplete := by
  cases ending with
  | incomplete => rfl
  | answered =>
      obtain ⟨request, asks⟩ := occurs
      exact absurd asks fits.not_asks
  | rejected => exact absurd fits occurs.1
  | complete | failed => exact absurd few (Nat.not_lt.2 occurs.2.1)

/-- With a job the stages decide how a run ends. -/
theorem Occurs.eq_complete_or_failed (occurs : Occurs workspace arguments ending)
    (fits : Fits (parts arguments)) (enough : 2 ≤ (positionals (parts arguments)).length)
    (orders : Orders arguments job) :
    ending = .complete ∧ Completes workspace job ∨
      ending = .failed ∧ ∃ failure, Fails workspace job failure ∧ failure.waits = false := by
  cases ending with
  | answered =>
      obtain ⟨request, asks⟩ := occurs
      exact absurd asks fits.not_asks
  | rejected => exact absurd fits occurs.1
  | incomplete => exact absurd occurs.2 (Nat.not_lt.2 enough)
  | complete =>
      obtain ⟨_, _, other, otherOrders, completes⟩ := occurs
      obtain rfl := orders.unique otherOrders
      exact .inl ⟨rfl, completes⟩
  | failed =>
      obtain ⟨_, _, other, failure, otherOrders, fails, ends⟩ := occurs
      obtain rfl := orders.unique otherOrders
      exact .inr ⟨rfl, failure, fails, ends⟩

/-- No two endings occur together. -/
theorem Occurs.unique {other : Ending} (occurs : Occurs workspace arguments ending)
    (otherOccurs : Occurs workspace arguments other) : other = ending := by
  cases ending with
  | answered =>
      obtain ⟨request, asks⟩ := occurs
      exact otherOccurs.eq_answered asks
  | rejected => exact otherOccurs.eq_rejected occurs.1 occurs.2
  | incomplete => exact otherOccurs.eq_incomplete occurs.1 occurs.2
  | complete =>
      obtain ⟨fits, enough, job, orders, completes⟩ := occurs
      rcases otherOccurs.eq_complete_or_failed fits enough orders with
        ⟨complete, _⟩ | ⟨_, failure, fails, _⟩
      · exact complete
      · exact absurd fails completes.not_fails
  | failed =>
      obtain ⟨fits, enough, job, failure, orders, fails, _⟩ := occurs
      rcases otherOccurs.eq_complete_or_failed fits enough orders with
        ⟨_, completes⟩ | ⟨failed, _⟩
      · exact absurd fails completes.not_fails
      · exact failed

/-- A run that waits does not end. -/
theorem Waits.not_occurs (waits : Waits workspace arguments) :
    ¬ Occurs workspace arguments ending := by
  intro occurs
  obtain ⟨fits, enough, job, orders, stalls⟩ := waits
  obtain ⟨failure, fails, waits⟩ := stalls_iff.1 stalls
  rcases occurs.eq_complete_or_failed fits enough orders with
    ⟨_, completes⟩ | ⟨_, other, otherFails, ends⟩
  · exact completes.not_fails fails
  · obtain rfl := fails.unique otherFails
    rw [waits] at ends
    cases ends

theorem Leaves.code_ne_none {outcome : Outcome} (leaves : Leaves workspace arguments outcome ending) :
    outcome.code ≠ none := by
  cases ending with
  | answered =>
      have code : outcome.code = some 0 := leaves
      simp [code]
  | rejected | incomplete | complete | failed => simp [leaves.1]

end Endings

/-! ## What a run leaves behind -/

section Outcomes

variable {workspace : Workspace} {arguments : List Bytes} {job : Job}

/-- Which notes are shown and what is said about their specification. -/
theorem program_run {options : Options} (accepted : parse arguments = .ok (.run options))
    (workspace : Workspace) (spec? : Option Text) :
    program workspace arguments spec? =
      { perform workspace options with
        warnings := warnings (filter options spec?).2
        notes := (notes workspace options).filter (filter options spec?).1.shows } := by
  simp only [program, accepted]

/-- What an accepted command line orders is done, or fails, or waits, whatever is noted of it. -/
theorem program_of_orders (accepts : Accepts arguments) (orders : Orders arguments job)
    (workspace : Workspace) (spec? : Option Text) :
    (program workspace arguments spec?).Alike (conclude job (summarize workspace job)) := by
  obtain ⟨options, accepted⟩ := accepts
  obtain ⟨other, ordered, otherOrders⟩ :=
    exists_job (describes_of_parse accepted) orders.enough
  obtain rfl := orders.unique otherOrders
  have performed : perform workspace options = conclude job (summarize workspace job) := by
    simp only [perform, ordered]
  rw [program_run accepted, performed]
  exact ⟨rfl, rfl, rfl, rfl⟩

theorem conclude_of_ends {failure : Failure} (ends : failure.waits = false) :
    conclude job (.error failure) = ⟨some 1, [], [], [], failure.report, failure.fault?⟩ := by
  rw [conclude, Outcome.failed, ends]
  rfl

theorem conclude_of_waits {failure : Failure} (waits : failure.waits = true) :
    conclude job (.error failure) = ⟨none, [], [], [], [], none⟩ := by
  rw [conclude, Outcome.failed, waits]
  rfl

/-- The entries of a summary are the rules with what is found for them. -/
theorem Succeeds.exists_columns {summary : Summary} (succeeds : Succeeds workspace job summary) :
    ∃ config ruleSet, ∃ columns : List (Rule × Text),
      Config.load workspace Path.dot = .ok config ∧
      RuleSet.scan workspace (job.rulesDirUnder config) = .ok ruleSet ∧
      summary.entries = columns.map (fun column => (column.1.resultFileName, column.2)) ∧
      (columns.map Prod.fst).Perm ruleSet.rules ∧
      ∀ column ∈ columns, Summary.Finds workspace job.resultsDir job.statistic
        config.missingValue column.1 column.2 := by
  obtain ⟨config, ruleSet, loaded, scanned, readable, covers⟩ := succeeds
  obtain ⟨columns, same, perm, finds⟩ :=
    covers.exists_entries (RuleSet.rules_nodup scanned) readable
  exact ⟨config, ruleSet, columns, loaded, scanned, same, perm, finds⟩

theorem output_of_failed (failure : Failure) : (Outcome.failed failure).output = [] := by
  unfold Outcome.failed
  split <;> rfl

theorem code_of_failed (failure : Failure) : (Outcome.failed failure).code ≠ some 0 := by
  unfold Outcome.failed
  split <;> simp

theorem Succeeds.presents {summary : Summary} (succeeds : Succeeds workspace job summary) :
    Presents workspace job (render job summary) := by
  obtain ⟨config, ruleSet, columns, loaded, scanned, same, perm, finds⟩ := succeeds.exists_columns
  have ascending := (Summary.makeUp_of_entries same).ascending
  exact ⟨config, ruleSet, columns, loaded, scanned, perm, ascending, finds, prints_render same⟩

/-- The run of a job is done or fails, or it prints nothing and waits. -/
theorem exists_ending_of_orders (fits : Fits (parts arguments))
    (enough : 2 ≤ (positionals (parts arguments)).length) (orders : Orders arguments job)
    (workspace : Workspace) (spec? : Option Text) :
    let outcome := program workspace arguments spec?
    (Waits workspace arguments ∧ outcome.code = none ∧ outcome.output = [] ∧
        outcome.errorOutput = outcome.logged) ∨
      ∃ ending, Occurs workspace arguments ending ∧
        Leaves workspace arguments outcome ending := by
  intro outcome
  have accepts : Accepts arguments := exists_run_iff_fits.2 fits
  have alike := program_of_orders accepts orders workspace spec?
  rcases summarize_cases workspace job with ⟨summary, summarized, succeeds⟩ |
    ⟨failure, summarized, fails⟩
  · rw [summarized] at alike
    refine .inr ⟨.complete, ⟨fits, enough, job, orders, succeeds.completes⟩, ?_⟩
    refine ⟨alike.code, alike.errorOutput_of_silent rfl, job, orders, ?_⟩
    rw [alike.output]
    exact succeeds.presents
  · rw [summarized] at alike
    cases waits : failure.waits with
    | true =>
        rw [conclude_of_waits waits] at alike
        have stalls := stalls_iff.2 ⟨failure, fails, waits⟩
        exact .inl ⟨⟨fits, enough, job, orders, stalls⟩, alike.code, alike.output,
          alike.errorOutput_of_silent rfl⟩
    | false =>
        rw [conclude_of_ends waits] at alike
        obtain ⟨text, spelled⟩ := failure.exists_spelled waits
        have errorOutput := alike.errorOutput_eq
        rw [spelled.report_eq] at errorOutput
        refine .inr ⟨.failed, ⟨fits, enough, job, failure, orders, fails, waits⟩, ?_⟩
        exact ⟨alike.code, alike.output, job, failure, text, orders, fails, spelled,
          spelled.isError, errorOutput, alike.fault⟩

theorem exists_ending (workspace : Workspace) (arguments : List Bytes) (spec? : Option Text) :
    let outcome := program workspace arguments spec?
    (Waits workspace arguments ∧ outcome.code = none ∧ outcome.output = [] ∧
        outcome.errorOutput = outcome.logged) ∨
      ∃ ending, Occurs workspace arguments ending ∧
        Leaves workspace arguments outcome ending := by
  intro outcome
  cases parsed : parse arguments with
  | error error =>
      have same : outcome = .refused error := by
        simp only [outcome, program, parsed]
      refine .inr ⟨.rejected, exists_error_iff.1 ⟨error, parsed⟩, ?_⟩
      rw [same]
      exact ⟨rfl, rfl⟩
  | ok request =>
      cases request with
      | help full =>
          refine .inr ⟨.answered, ⟨.help full, asks_of_parse parsed (by simp)⟩, ?_⟩
          simp only [Leaves, outcome, program, parsed, Outcome.printed]
      | version =>
          refine .inr ⟨.answered, ⟨.version, asks_of_parse parsed (by simp)⟩, ?_⟩
          simp only [Leaves, outcome, program, parsed, Outcome.printed]
      | run options =>
          have describes := describes_of_parse parsed
          have fits := exists_run_iff_fits.1 ⟨options, parsed⟩
          rcases Nat.lt_or_ge (positionals (parts arguments)).length 2 with few | enough
          · have noJob := job?_eq_none describes few
            have same : outcome = { Outcome.printed 1 usage with
                warnings := outcome.warnings, notes := outcome.notes } := by
              simp only [outcome, program_run parsed, perform, noJob]
            refine .inr ⟨.incomplete, ⟨fits, few⟩, ?_⟩
            rw [same]
            exact ⟨rfl, rfl⟩
          · obtain ⟨job, _, orders⟩ := exists_job describes enough
            exact exists_ending_of_orders fits enough orders workspace spec?

/-- An accepted run that ends well has done its job. -/
theorem succeeds_of_code {spec? : Option Text} (accepts : Accepts arguments)
    (succeeded : (program workspace arguments spec?).code = some 0) :
    ∃ job summary, Orders arguments job ∧ Succeeds workspace job summary ∧
      (program workspace arguments spec?).output = render job summary := by
  have ⟨options, accepted⟩ := accepts
  have describes := describes_of_parse accepted
  rcases Nat.lt_or_ge (positionals (parts arguments)).length 2 with few | enough
  · have noJob := job?_eq_none describes few
    simp [program_run accepted, perform, noJob, Outcome.printed] at succeeded
  · obtain ⟨job, _, orders⟩ := exists_job describes enough
    have alike := program_of_orders accepts orders workspace spec?
    rcases summarize_cases workspace job with ⟨summary, summarized, succeeds⟩ |
      ⟨failure, summarized, fails⟩
    · rw [summarized] at alike
      exact ⟨job, summary, orders, succeeds, alike.output⟩
    · rw [alike.code, summarized] at succeeded
      exact absurd succeeded (code_of_failed failure)

/-- Without a job nothing depends on the workspace. -/
theorem program_eq_of_no_job
    (noJob : ∀ options, parse arguments = .ok (.run options) → job? options = none)
    (workspace other : Workspace) (spec? : Option Text) :
    program other arguments spec? = program workspace arguments spec? := by
  cases parsed : parse arguments with
  | error error => simp only [program, parsed]
  | ok request =>
      cases request with
      | run options =>
          have absent := noJob options parsed
          simp only [program_run parsed, perform, notes, absent]
      | help full => simp only [program, parsed]
      | version => simp only [program, parsed]

theorem Occurs.no_job {ending : Ending} (occurs : Occurs workspace arguments ending)
    (notComplete : ending ≠ .complete) (notFailed : ending ≠ .failed) {options : Options}
    (accepted : parse arguments = .ok (.run options)) : job? options = none := by
  have fits := exists_run_iff_fits.1 ⟨options, accepted⟩
  cases ending with
  | answered =>
      obtain ⟨request, asks⟩ := occurs
      exact absurd asks fits.not_asks
  | rejected => exact absurd fits occurs.1
  | incomplete => exact job?_eq_none (describes_of_parse accepted) occurs.2
  | complete => exact absurd rfl notComplete
  | failed => exact absurd rfl notFailed

theorem warnings_of_no_spec (workspace : Workspace) (arguments : List Bytes) :
    (program workspace arguments none).warnings = [] := by
  unfold program
  split <;> rfl

/-- Without a wish for more and without a specification nothing is noted. -/
theorem notes_of_quiet (quiet : .verbose ∉ flags (parts arguments)) (workspace : Workspace) :
    (program workspace arguments none).notes = [] := by
  cases parsed : parse arguments with
  | error error => simp only [program, parsed, Outcome.refused]
  | ok request =>
      cases request with
      | help full => simp only [program, parsed, Outcome.printed]
      | version => simp only [program, parsed, Outcome.printed]
      | run options =>
          have off : options.verbose = false := by
            rw [← (describes_of_parse parsed).flags.mem_iff, verbose_mem_flags] at quiet
            simpa using quiet
          rw [program_run parsed]
          simp only [filter, off, List.filter_eq_nil_iff, Log.Filter.not_shows_usual]
          simp

theorem logged_of_quiet (quiet : .verbose ∉ flags (parts arguments)) (workspace : Workspace) :
    (program workspace arguments none).logged = [] := by
  rw [Outcome.logged, warnings_of_no_spec, notes_of_quiet quiet]
  rfl

/-- Every run has exactly one ending and leaves behind what belongs to it, or else a stage of its
job has come to a pipe and it waits there, with nothing printed but notes.  Unless a job is done
or fails, what is left behind is the same in every workspace.  Notes show by their mark what they
are, and nothing is noted that nobody has asked for. -/
theorem program_has_one_ending (workspace : Workspace) (arguments : List Bytes)
    (spec? : Option Text) :
    let outcome := program workspace arguments spec?
    ((¬ Waits workspace arguments ∧ ∃ ending, Occurs workspace arguments ending ∧
          Leaves workspace arguments outcome ending ∧
          ∀ other, Occurs workspace arguments other → other = ending) ∨
        Waits workspace arguments ∧ (∀ ending, ¬ Occurs workspace arguments ending) ∧
          outcome.code = none ∧ outcome.output = [] ∧ outcome.errorOutput = outcome.logged) ∧
      (∀ ending, Occurs workspace arguments ending → ending ≠ .complete → ending ≠ .failed →
        ∀ other, program other arguments spec? = outcome) ∧
      (∀ note ∈ outcome.notes, "[DEBUG rulestat::".toList <+: note.written) ∧
      (program workspace arguments none).warnings = [] ∧
      (.verbose ∉ flags (parts arguments) → (program workspace arguments none).logged = []) := by
  intro outcome
  refine ⟨?_, ?_, ?_, warnings_of_no_spec workspace arguments, ?_⟩
  · rcases exists_ending workspace arguments spec? with
      ⟨waits, code, output, errorOutput⟩ | ⟨ending, occurs, leaves⟩
    · exact .inr ⟨waits, fun _ => waits.not_occurs, code, output, errorOutput⟩
    · refine .inl ⟨?_, ending, occurs, leaves, ?_⟩
      · intro waits
        exact waits.not_occurs occurs
      · intro other otherOccurs
        exact occurs.unique otherOccurs
  · intro ending occurs notComplete notFailed other
    apply program_eq_of_no_job
    intro options accepted
    exact occurs.no_job notComplete notFailed accepted
  · intro note _
    exact note.mark_written
  · intro quiet
    exact logged_of_quiet quiet workspace

/-- A workspace with one rule, which has a result in one directory and a pipe in another. -/
def piped : Workspace :=
  (Workspace.ofFiles [("RuleSets/a", ""), ("R/a.result", "k: 1")]).edited
    (.makePipe (Utf8.ofString "P/a.result"))

/-- Three results directories of which the second one lacks the result and the third one makes
the run wait, and none at all. -/
theorem program_has_one_ending_piped :
    let found := [Utf8.ofString "k", Utf8.ofString "R"]
    let lacking := [Utf8.ofString "k", Utf8.ofString "Q"]
    let waiting := [Utf8.ofString "k", Utf8.ofString "P"]
    let short := [Utf8.ofString "k"]
    (Occurs piped found .complete ∧ (program piped found none).output = "1; \n".toList ∧
        (program piped found none).errorOutput = []) ∧
      (Occurs piped lacking .failed ∧ (program piped lacking none).output = [] ∧
        (program piped lacking none).errorOutput =
          "error: failed to collect 'k': cannot read result file Q/a.result".toList ++
            ": No such file or directory (os error 2)\n".toList) ∧
      (Waits piped waiting ∧ (program piped waiting none).code = none) ∧
      Occurs piped short .incomplete ∧
        (program piped short none).output = "rulestat <Stat> <Result-Folder>\n".toList := by
  intro found lacking waiting short
  refine ⟨?_, ?_, ?_, ?_⟩
  · have orders : Orders found ⟨"k".toList, Utf8.ofString "R", none, false, false⟩ :=
      ⟨rfl, rfl, rfl, by decide, by decide⟩
    have complete : Occurs piped found .complete :=
      ⟨exists_run_iff_fits.1 ⟨_, rfl⟩, orders.enough, _, orders, (succeeds_of_summarize rfl).completes⟩
    obtain ⟨⟨_, ending, _, leaves, unique⟩ | ⟨waits, _⟩, _⟩ := program_has_one_ending piped found none
    · obtain rfl := unique .complete complete
      exact ⟨complete, rfl, leaves.2.1⟩
    · exact absurd complete waits.not_occurs
  · have orders : Orders lacking ⟨"k".toList, Utf8.ofString "Q", none, false, false⟩ :=
      ⟨rfl, rfl, rfl, by decide, by decide⟩
    have fails : Fails piped ⟨"k".toList, Utf8.ofString "Q", none, false, false⟩
        (.collect "k".toList (.result ⟨Utf8.ofString "Q/a.result", .refused .notFound⟩)) :=
      fails_of_summarize rfl
    have failed : Occurs piped lacking .failed :=
      ⟨exists_run_iff_fits.1 ⟨_, rfl⟩, orders.enough, _, _, orders, fails, rfl⟩
    obtain ⟨⟨_, ending, _, leaves, unique⟩ | ⟨waits, _⟩, _⟩ :=
      program_has_one_ending piped lacking none
    · obtain rfl := unique .failed failed
      obtain ⟨_, output, job, failure, text, otherOrders, otherFails, spelled, _, errorOutput, _⟩ :=
        leaves
      obtain rfl := orders.unique otherOrders
      obtain rfl := fails.unique otherFails
      rw [logged_of_quiet (by decide)] at errorOutput
      refine ⟨failed, output, errorOutput.trans ?_⟩
      cases spelled with
      | collect spelled =>
          cases spelled with
          | unread => rfl
    · exact absurd failed waits.not_occurs
  · have code : (program piped waiting none).code = none := rfl
    obtain ⟨⟨_, ending, _, leaves, _⟩ | ⟨waits, _⟩, _⟩ := program_has_one_ending piped waiting none
    · exact absurd code leaves.code_ne_none
    · exact ⟨waits, code⟩
  · have incomplete : Occurs piped short .incomplete :=
      ⟨exists_run_iff_fits.1 ⟨_, rfl⟩, by decide⟩
    obtain ⟨⟨_, ending, _, leaves, unique⟩ | ⟨waits, _⟩, _⟩ := program_has_one_ending piped short none
    · obtain rfl := unique .incomplete incomplete
      exact ⟨incomplete, leaves.2⟩
    · exact absurd incomplete waits.not_occurs

end Outcomes

end RuleDigest.Run

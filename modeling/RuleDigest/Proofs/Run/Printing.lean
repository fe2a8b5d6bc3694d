import RuleDigest.Proofs.Report.Encoding
import RuleDigest.Proofs.Run.Stages
import RuleDigest.Proofs.Summary.Lines

/-!
# What is printed

What a run prints of a failure, of the values of rules and of what it notes, spelled out.  The
texts stand here as they are read, beside the definitions that compute them.
-/

namespace RuleDigest

/-! ## Failures -/

/-- What is printed of a configuration that could not be loaded. -/
inductive ConfigError.Spelled : ConfigError → Text → Prop where
  | unreadable {path : Bytes} {cause : IoError} :
      Spelled (.unreadable path (.refused cause))
        ("cannot read config ".toList ++ Utf8.decodeLossy path ++ ": ".toList ++ cause.message ++
          "\n".toList)
  /-- The line goes on with the description of the fault. -/
  | invalid {path : Bytes} {fault : ConfigFault} :
      Spelled (.invalid path fault) ("invalid config ".toList ++ Utf8.decodeLossy path)

/-- What is printed of a statistic that could not be collected. -/
inductive CollectError.Spelled : CollectError → Text → Prop where
  | notADirectory {root : Bytes} :
      Spelled (.scan (.notADirectory root))
        ("rules path is not a directory: ".toList ++ Utf8.decodeLossy root ++ "\n".toList)
  | unlistable {root : Bytes} {source : WalkError} :
      Spelled (.scan (.unlistable root source))
        ("cannot read rules directory ".toList ++ Utf8.decodeLossy root ++
          ": IO error for operation on ".toList ++ Utf8.decodeLossy source.path ++ ": ".toList ++
          source.cause.message ++ ": ".toList ++ source.cause.message ++ "\n".toList)
  | unread {path : Bytes} {cause : IoError} :
      Spelled (.result ⟨path, .refused cause⟩)
        ("cannot read result file ".toList ++ Utf8.decodeLossy path ++ ": ".toList ++
          cause.message ++ "\n".toList)

/-- What is printed of a failure. -/
inductive Failure.Spelled : Failure → Text → Prop where
  | config {error : ConfigError} {text : Text} :
      error.Spelled text → Spelled (.config error) ("error: ".toList ++ text)
  | collect {statistic : Text} {error : CollectError} {text : Text} :
      error.Spelled text →
      Spelled (.collect statistic error)
        ("error: failed to collect '".toList ++ statistic ++ "': ".toList ++ text)

section Failures

variable {text : Text}

theorem intercalate_pair (separator first second : Text) :
    separator.intercalate [first, second] = first ++ separator ++ second := by
  simp

theorem intercalate_triple (separator first second third : Text) :
    separator.intercalate [first, second, third] =
      first ++ separator ++ second ++ separator ++ third := by
  simp

theorem ConfigError.Spelled.report_eq {error : ConfigError} (spelled : error.Spelled text) :
    (Failure.config error).report = "error: ".toList ++ text := by
  cases spelled with
  | @unreadable path cause =>
      have report : (Failure.config (.unreadable path (.refused cause))).report =
          "error: ".toList ++ ": ".toList.intercalate
            ["cannot read config ".toList ++ Utf8.decodeLossy path, cause.message] ++ ['\n'] := rfl
      rw [report, intercalate_pair]
      simp only [List.append_assoc]
      rfl
  | @invalid path fault =>
      have report : (Failure.config (.invalid path fault)).report =
          "error: ".toList ++ ": ".toList.intercalate
            ["invalid config ".toList ++ Utf8.decodeLossy path] ++ [] := rfl
      rw [report, List.intercalate_singleton, List.append_nil]

theorem CollectError.chain_ne_nil (error : CollectError) : error.chain ≠ [] := by
  cases error with
  | scan error => cases error <;> exact List.cons_ne_nil _ _
  | result error => exact List.cons_ne_nil _ _

theorem CollectError.Spelled.chain_eq {error : CollectError} (spelled : error.Spelled text) :
    ": ".toList.intercalate error.chain ++ ['\n'] = text := by
  cases spelled with
  | @notADirectory root =>
      have chain : (CollectError.scan (.notADirectory root)).chain =
          ["rules path is not a directory: ".toList ++ Utf8.decodeLossy root] := rfl
      rw [chain, List.intercalate_singleton]
      rfl
  | @unlistable root source =>
      have chain : (CollectError.scan (.unlistable root source)).chain =
          ["cannot read rules directory ".toList ++ Utf8.decodeLossy root,
            "IO error for operation on ".toList ++ Utf8.decodeLossy source.path ++ ": ".toList ++
              source.cause.message,
            source.cause.message] := rfl
      have opening : ": IO error for operation on ".toList =
          ": ".toList ++ "IO error for operation on ".toList := rfl
      rw [chain, intercalate_triple, opening]
      simp only [List.append_assoc]
      rfl
  | @unread path cause =>
      have chain : (CollectError.result ⟨path, .refused cause⟩).chain =
          ["cannot read result file ".toList ++ Utf8.decodeLossy path, cause.message] := rfl
      rw [chain, intercalate_pair]
      rfl

/-- The statistic that could not be collected is named before the cause. -/
theorem Failure.report_collect (statistic : Text) (error : CollectError) :
    (Failure.collect statistic error).report =
      "error: failed to collect '".toList ++ statistic ++ "': ".toList ++
        (": ".toList.intercalate error.chain ++ ['\n']) := by
  have report : (Failure.collect statistic error).report =
      "error: ".toList ++ ": ".toList.intercalate
        (("failed to collect '".toList ++ statistic ++ ['\'']) :: error.chain) ++ ['\n'] := rfl
  have opening : "error: failed to collect '".toList =
      "error: ".toList ++ "failed to collect '".toList := rfl
  have closing : "': ".toList = ['\''] ++ ": ".toList := rfl
  obtain ⟨first, rest, chain⟩ := List.exists_cons_of_ne_nil error.chain_ne_nil
  rw [report, chain, List.intercalate_cons_cons, opening, closing]
  simp only [List.append_assoc]

theorem CollectError.Spelled.report_eq {error : CollectError} (spelled : error.Spelled text)
    (statistic : Text) :
    (Failure.collect statistic error).report =
      "error: failed to collect '".toList ++ statistic ++ "': ".toList ++ text := by
  rw [Failure.report_collect, spelled.chain_eq]

theorem Failure.Spelled.report_eq {failure : Failure} (spelled : failure.Spelled text) :
    failure.report = text := by
  cases spelled with
  | config spelled => exact spelled.report_eq
  | collect spelled => exact spelled.report_eq _

theorem ConfigError.exists_spelled {error : ConfigError} (ends : error.waits = false) :
    ∃ text, error.Spelled text := by
  cases error with
  | invalid path fault => exact ⟨_, .invalid⟩
  | unreadable path fault =>
      cases fault with
      | refused cause => exact ⟨_, .unreadable⟩
      | waits => cases ends

theorem CollectError.exists_spelled {error : CollectError} (ends : error.waits = false) :
    ∃ text, error.Spelled text := by
  cases error with
  | scan error =>
      cases error with
      | notADirectory root => exact ⟨_, .notADirectory⟩
      | unlistable root source => exact ⟨_, .unlistable⟩
  | result error =>
      obtain ⟨path, fault⟩ := error
      cases fault with
      | refused cause => exact ⟨_, .unread⟩
      | waits => cases ends

/-- What has failed and does not wait can be told. -/
theorem Failure.exists_spelled {failure : Failure} (ends : failure.waits = false) :
    ∃ text, failure.Spelled text := by
  cases failure with
  | config error =>
      obtain ⟨text, spelled⟩ := error.exists_spelled ends
      exact ⟨_, .config spelled⟩
  | collect statistic error =>
      obtain ⟨text, spelled⟩ := error.exists_spelled ends
      exact ⟨_, .collect spelled⟩

theorem Failure.Spelled.isError {failure : Failure} (spelled : failure.Spelled text) :
    "error: ".toList <+: text := by
  cases spelled with
  | config spelled => exact List.prefix_append _ _
  | @collect statistic error text spelled =>
      have opening : "error: failed to collect '".toList =
          "error: ".toList ++ "failed to collect '".toList := rfl
      rw [opening]
      simp only [List.append_assoc]
      exact List.prefix_append _ _

end Failures

namespace Run

/-! ## Values -/

/-- A line has a semicolon and a blank after each of its columns. -/
def lineOf (columns : List Text) : Text :=
  columns.flatMap (· ++ "; ".toList) ++ "\n".toList

/-- What is printed of the values of rules, by the presentation of a job. -/
inductive Prints (job : Job) (columns : List (Rule × Text)) : Text → Prop where
  | line :
      job.json = false → job.header = false → Prints job columns (lineOf (columns.map Prod.snd))
  | headed :
      job.json = false → job.header = true →
      Prints job columns
        (lineOf (columns.map fun column => column.1.displayName) ++ lineOf (columns.map Prod.snd))
  /-- A reader of JSON comes to an object of the values and has nothing left. -/
  | object {text : Text} :
      job.json = true →
      Json.value? Json.depthLimit text =
        some (.object
          [("stat".toList, .string job.statistic),
            ("values".toList, .object (columns.map fun column =>
              (column.1.displayName ++ ".result".toList, .string column.2)))], []) →
      Prints job columns (text ++ "\n".toList)

section Values

variable {job : Job} {summary : Summary} {columns : List (Rule × Text)}

theorem map_entries_eq
    (same : summary.entries = columns.map fun column => (column.1.resultFileName, column.2)) :
    summary.entries.map (fun entry => (Utf8.decodeLossy entry.1, Json.string entry.2)) =
      columns.map fun column => (column.1.displayName ++ ".result".toList, .string column.2) := by
  rw [same, List.map_map]
  apply List.map_congr_left
  intro column _
  rw [Function.comp_apply, Rule.decodeLossy_resultFileName]
  rfl

theorem render_of_makeUp (makeUp : Summary.MakeUp columns summary) (noJson : job.json = false) :
    render job summary =
      (if job.header then lineOf (columns.map fun column => column.1.displayName) else []) ++
        lineOf (columns.map Prod.snd) := by
  rw [render, noJson, if_neg Bool.false_ne_true]
  dsimp only [Report.toLines]
  rw [makeUp.header, makeUp.line, List.append_assoc]
  rfl

/-- The rules of a summary are printed with their values, whatever the presentation. -/
theorem prints_render
    (same : summary.entries = columns.map fun column => (column.1.resultFileName, column.2)) :
    Prints job columns (render job summary) := by
  cases json : job.json with
  | true =>
      have rendered : render job summary =
          (Report.mk job.statistic summary job.header).toJson ++ "\n".toList := by
        simp only [render, json, if_true]
        rfl
      have shown : (Report.mk job.statistic summary job.header).json =
          .object
            [("stat".toList, .string job.statistic),
              ("values".toList, .object (columns.map fun column =>
                (column.1.displayName ++ ".result".toList, .string column.2)))] := by
        rw [Report.json, Report.values, map_entries_eq same]
      have read := Report.value?_toJson ⟨job.statistic, summary, job.header⟩
      rw [shown] at read
      rw [rendered]
      exact .object json read
  | false =>
      have lines := render_of_makeUp (Summary.makeUp_of_entries same) json
      cases wanted : job.header with
      | false =>
          rw [wanted, if_neg Bool.false_ne_true, List.nil_append] at lines
          rw [lines]
          exact .line json wanted
      | true =>
          rw [wanted, if_pos rfl] at lines
          rw [lines]
          exact .headed json wanted

end Values

end Run

/-! ## Notes -/

namespace Plain

/-- Plain characters of one byte are written as they are. -/
theorem exists_stripFrom_append {opening : Text}
    (plain : ∀ char ∈ opening, isPlain char = true ∧ char.toNat < 0x80) (running : Bool)
    (rest : Text) :
    ∃ after, stripFrom running .ground (opening ++ rest) = opening ++ stripFrom after .ground rest := by
  induction opening generalizing running with
  | nil => exact ⟨running, rfl⟩
  | cons char more inductionHypothesis =>
      obtain ⟨⟨writes, small⟩, morePlain⟩ := List.forall_mem_cons.1 plain
      obtain ⟨after, same⟩ := inductionHypothesis morePlain true
      refine ⟨after, ?_⟩
      simp only [List.cons_append, stripFrom, State.writes, writes, Bool.or_true, small, if_true,
        same]

end Plain

/-- A note shows by its mark that it is one. -/
theorem Log.Event.mark_written (event : Event) : "[DEBUG rulestat::".toList <+: event.written := by
  have marked : ∃ more, event.mark = "[DEBUG rulestat::".toList ++ more := by
    cases event with
    | extraIgnored arguments => exact ⟨"cli] ".toList, rfl⟩
    | collecting statistic resultsDir rulesDir => exact ⟨"cli] ".toList, rfl⟩
    | configAbsent path => exact ⟨"config] ".toList, rfl⟩
    | configLoaded path => exact ⟨"config] ".toList, rfl⟩
    | entrySkipped path => exact ⟨"rules] ".toList, rfl⟩
    | rulesFound count root => exact ⟨"rules] ".toList, rfl⟩
    | valueFound path key value => exact ⟨"result_file] ".toList, rfl⟩
    | valueAbsent path key => exact ⟨"result_file] ".toList, rfl⟩
  obtain ⟨more, mark⟩ := marked
  have plain : ∀ char ∈ "[DEBUG rulestat::".toList,
      Plain.isPlain char = true ∧ char.toNat < 0x80 := by
    have all : "[DEBUG rulestat::".toList.all
        (fun char => Plain.isPlain char && decide (char.toNat < 0x80)) = true := rfl
    simpa only [List.all_eq_true, Bool.and_eq_true, decide_eq_true_eq] using all
  obtain ⟨after, written⟩ :=
    Plain.exists_stripFrom_append plain false (more ++ indented event.message ++ ['\n'])
  rw [Log.Event.written, Plain.strip, mark, List.append_assoc, List.append_assoc,
    ← List.append_assoc more, written]
  exact List.prefix_append _ _

/-- Without a wish for more no note is shown. -/
theorem Log.Filter.not_shows_usual (event : Event) : (usual false).shows event = false := rfl

namespace Outcome

/-- All characters of the error stream. -/
def errorOutput (outcome : Outcome) : Text :=
  outcome.errorStream.map Prod.snd

/-- What is noted on the error stream, after what is said about the specification of notes. -/
def logged (outcome : Outcome) : Text :=
  outcome.warnings ++ outcome.notes.flatMap (·.written)

/-- Two outcomes differ in nothing but what is noted. -/
structure Alike (first second : Outcome) : Prop where
  code : first.code = second.code
  output : first.output = second.output
  errors : first.errors = second.errors
  fault : first.fault? = second.fault?

theorem errorOutput_eq (outcome : Outcome) :
    outcome.errorOutput = outcome.logged ++ outcome.errors := by
  have unmarked (text : Text) : (text.map fun char => (false, char)).map Prod.snd = text := by
    simp [Function.comp_def]
  have note (text : Text) :
      (text.mapIdx fun index char => (index == 0, char)).map Prod.snd = text := by
    apply List.ext_getElem <;> simp
  simp only [errorOutput, errorStream, List.map_append, unmarked, logged, List.map_flatMap, note]

section Alikeness

variable {outcome other : Outcome}

theorem Alike.errorOutput_eq (alike : outcome.Alike other) :
    outcome.errorOutput = outcome.logged ++ other.errors := by
  rw [outcome.errorOutput_eq, alike.errors]

theorem Alike.errorOutput_of_silent (alike : outcome.Alike other) (silent : other.errors = []) :
    outcome.errorOutput = outcome.logged := by
  rw [alike.errorOutput_eq, silent, List.append_nil]

end Alikeness

end Outcome

end RuleDigest

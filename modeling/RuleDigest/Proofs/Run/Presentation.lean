import RuleDigest.Proofs.CommandLine.Spelling
import RuleDigest.Proofs.Report.Encoding
import RuleDigest.Proofs.Run.Endings

/-!
# Presentation

The flags of the presentation and the specification of notes change neither how a
run ends nor what it reports.  In front of a command line that uses none of them
they lead to the same job, presented in another way, and the columns of the line
are the values of the JSON object.
-/

namespace RuleDigest.Run

open CommandLine

/-- The job with its presentation chosen by flags. -/
def Job.presented (job : Job) (chosen : List Flag) : Job :=
  { job with header := decide (Flag.header ∈ chosen), json := decide (Flag.json ∈ chosen) }

section Jobs

variable {arguments front : List Bytes} {chosen : List Flag} {job : Job}

/-- The flags in front of a command line choose the presentation of its job. -/
theorem Orders.presented (orders : Orders arguments job)
    (plain : ∀ flag ∈ [Flag.header, .verbose, .json], flag ∉ flags (parts arguments))
    (spells : Spells front chosen) : Orders (front ++ arguments) (job.presented chosen) := by
  obtain ⟨statistic, resultsDir, rulesDir, _, _⟩ := orders
  have noHeader := plain .header (by decide)
  have noJson := plain .json (by decide)
  refine ⟨?_, ?_, ?_, ?_, ?_⟩
  · simpa [spells.parts_append, Job.presented] using statistic
  · simpa [spells.parts_append, Job.presented] using resultsDir
  · simpa [spells.parts_append, Job.presented] using rulesDir
  · simp [spells.parts_append, Job.presented, noHeader]
  · simp [spells.parts_append, Job.presented, noJson]

theorem Accepts.with_flags (accepts : Accepts arguments)
    (plain : ∀ flag ∈ [Flag.header, .verbose, .json], flag ∉ flags (parts arguments))
    (spells : Spells front chosen) : Accepts (front ++ arguments) := by
  apply exists_run_iff_fits.2
  apply spells.fits_append (exists_run_iff_fits.1 accepts)
  intro flag membership
  exact plain flag (spells.mem_presentation membership)

end Jobs

section Outcomes

variable {arguments : List Bytes} {job : Job}

/-- The flags in front choose how the outcome of a job is presented, and nothing else. -/
theorem program_presented (accepts : Accepts arguments) (orders : Orders arguments job)
    (plain : ∀ flag ∈ [Flag.header, .verbose, .json], flag ∉ flags (parts arguments))
    {front : List Bytes} {chosen : List Flag} (spells : Spells front chosen)
    (workspace : Workspace) (spec? : Option Text) :
    (program workspace (front ++ arguments) spec?).Alike
      (conclude (job.presented chosen) (summarize workspace job)) :=
  program_of_orders (accepts.with_flags plain spells) (orders.presented plain spells) workspace spec?

/-- What is said about the specification of notes depends on that alone. -/
theorem warnings_of_accepts {other : List Bytes} (accepts : Accepts arguments)
    (otherAccepts : Accepts other) (workspace : Workspace) (spec? : Option Text) :
    (program workspace arguments spec?).warnings = (program workspace other spec?).warnings := by
  obtain ⟨options, accepted⟩ := accepts
  obtain ⟨otherOptions, otherAccepted⟩ := otherAccepts
  rw [program_run accepted, program_run otherAccepted]
  cases spec? <;> rfl

/-- A summary is presented as its line, after one of names if a header is wanted, or as an
object that is read back with the values of the line in their order. -/
theorem render_presented (job : Job) (chosen : List Flag) (summary : Summary) :
    (.json ∉ chosen → render (job.presented chosen) summary =
        (if .header ∈ chosen then summary.header ++ ['\n'] else []) ++
          render (job.presented []) summary) ∧
      (.json ∈ chosen → ∃ members : List (Text × Text),
        Json.read? (render (job.presented chosen) summary) =
            some (.object
              [("stat".toList, .string job.statistic),
                ("values".toList, .object (members.map fun member =>
                  (member.1, .string member.2)))]) ∧
          members.flatMap (fun member => member.2 ++ "; ".toList) ++ ['\n'] =
            render (job.presented []) summary) := by
  have line : render (job.presented []) summary = summary.line ++ ['\n'] := rfl
  rw [line]
  constructor
  · intro noJson
    by_cases header : Flag.header ∈ chosen
    · simp [render, Job.presented, noJson, header, Report.toLines]
    · simp [render, Job.presented, noJson, header, Report.toLines]
  · intro json
    have blank : Json.skipSpaces ['\n'] = [] := rfl
    refine ⟨summary.entries.map fun entry => (Utf8.decodeLossy entry.1, entry.2), ?_, ?_⟩
    · simp only [render, Job.presented, json, decide_true, if_true, Report.read?_toJson _ blank,
        Report.json, Report.values, List.map_map, Function.comp_def]
    · simp only [Summary.line, Summary.joinColumns, Summary.values, List.flatMap_map,
        Summary.separator]

/-- A header matters to lines only. -/
theorem render_presented_congr (job : Job) (summary : Summary) {chosen otherChosen : List Flag}
    (json : .json ∈ otherChosen ↔ .json ∈ chosen)
    (header : .json ∈ chosen ∨ (.header ∈ otherChosen ↔ .header ∈ chosen)) :
    render (job.presented otherChosen) summary = render (job.presented chosen) summary := by
  by_cases wanted : Flag.json ∈ chosen
  · simp only [render, Job.presented, json.2 wanted, wanted, decide_true, if_true]
    rfl
  · have sameHeader := header.resolve_left wanted
    rw [(render_presented job chosen summary).1 wanted,
      (render_presented job otherChosen summary).1 (mt json.1 wanted)]
    simp only [sameHeader]

end Outcomes

/-- Flags of the presentation in front of a command line that uses none of them, and any
specification of notes, leave the exit code and the error stream as they are, notes aside.
Nothing is printed of a run that fails.  Of one that succeeds the same line is printed, after
one of names if a header is wanted, or else an object of the same values, with or without a
header. -/
theorem flags_change_only_presentation {arguments : List Bytes} (accepts : Accepts arguments)
    (enough : 2 ≤ (positionals (parts arguments)).length)
    (plain : ∀ flag ∈ [Flag.header, .verbose, .json], flag ∉ flags (parts arguments))
    {front : List Bytes} {chosen : List Flag} (spells : Spells front chosen)
    (workspace : Workspace) (bareSpec? spec? : Option Text) :
    let bare := program workspace arguments bareSpec?
    let shown := program workspace (front ++ arguments) spec?
    shown.code = bare.code ∧ shown.errors = bare.errors ∧ shown.fault? = bare.fault? ∧
      shown.warnings = (program workspace arguments spec?).warnings ∧
      (bare.code ≠ some 0 → shown.output = []) ∧
      (bare.code = some 0 → ∃ job summary, Orders arguments job ∧ Succeeds workspace job summary ∧
        (.json ∉ chosen →
          shown.output =
            (if .header ∈ chosen then summary.header ++ ['\n'] else []) ++ bare.output) ∧
        (.json ∈ chosen → ∃ members : List (Text × Text),
          Json.read? shown.output =
              some (.object
                [("stat".toList, .string job.statistic),
                  ("values".toList, .object (members.map fun member =>
                    (member.1, .string member.2)))]) ∧
            members.flatMap (fun member => member.2 ++ "; ".toList) ++ ['\n'] = bare.output)) ∧
      ∀ otherFront otherChosen, Spells otherFront otherChosen →
        (.json ∈ otherChosen ↔ .json ∈ chosen) →
        (.json ∈ chosen ∨ (.header ∈ otherChosen ↔ .header ∈ chosen)) →
        ∀ otherSpec?,
          (program workspace (otherFront ++ arguments) otherSpec?).output = shown.output := by
  intro bare shown
  have ⟨options, accepted⟩ := accepts
  obtain ⟨job, _, orders⟩ := exists_job (describes_of_parse accepted) enough
  have presented {someFront : List Bytes} {someChosen : List Flag}
      (someSpells : Spells someFront someChosen) (someSpec? : Option Text) :=
    program_presented accepts orders plain someSpells workspace someSpec?
  have warned : shown.warnings = (program workspace arguments spec?).warnings :=
    warnings_of_accepts (accepts.with_flags plain spells) accepts workspace spec?
  have bareAlike := presented .nil bareSpec?
  have alike := presented spells spec?
  rcases summarize_cases workspace job with ⟨summary, summarized, succeeds⟩ |
    ⟨failure, summarized, _⟩
  · rw [summarized] at bareAlike alike
    have bareOutput : bare.output = render (job.presented []) summary := bareAlike.output
    have output : shown.output = render (job.presented chosen) summary := alike.output
    refine ⟨alike.code.trans bareAlike.code.symm, alike.errors.trans bareAlike.errors.symm,
      alike.fault.trans bareAlike.fault.symm, warned, ?_, ?_, ?_⟩
    · intro failed
      exact absurd bareAlike.code failed
    · intro _
      have views := render_presented job chosen summary
      rw [← output, ← bareOutput] at views
      exact ⟨job, summary, orders, succeeds, views⟩
    · intro otherFront otherChosen otherSpells json header otherSpec?
      have otherAlike := presented otherSpells otherSpec?
      rw [summarized] at otherAlike
      rw [output, ← render_presented_congr job summary json header]
      exact otherAlike.output
  · -- What is left behind by a failure does not depend on the presentation.
    rw [summarized] at bareAlike alike
    have output : shown.output = [] := alike.output.trans (output_of_failed failure)
    refine ⟨alike.code.trans bareAlike.code.symm, alike.errors.trans bareAlike.errors.symm,
      alike.fault.trans bareAlike.fault.symm, warned, ?_, ?_, ?_⟩
    · intro _
      exact output
    · intro succeeded
      exact absurd (bareAlike.code.symm.trans succeeded) (code_of_failed failure)
    · intro otherFront otherChosen otherSpells _ _ otherSpec?
      have otherAlike := presented otherSpells otherSpec?
      rw [summarized] at otherAlike
      exact (otherAlike.output.trans (output_of_failed failure)).trans output.symm

theorem flags_change_only_presentation_neighbours :
    let arguments := [Utf8.ofString "k", Utf8.ofString "R"]
    let front := [Utf8.ofString "--json", Utf8.ofString "-v"]
    Accepts arguments ∧ 2 ≤ (positionals (parts arguments)).length ∧
      (∀ flag ∈ [Flag.header, .verbose, .json], flag ∉ flags (parts arguments)) ∧
      Spells front [.json, .verbose] ∧
      (program Summary.neighbours (front ++ arguments) (some "off".toList)).code = some 0 ∧
      ∃ job summary, Orders arguments job ∧ Succeeds Summary.neighbours job summary ∧
        ∃ members : List (Text × Text),
          Json.read? (program Summary.neighbours (front ++ arguments) (some "off".toList)).output =
              some (.object
                [("stat".toList, .string job.statistic),
                  ("values".toList, .object (members.map fun member =>
                    (member.1, .string member.2)))]) ∧
            members.flatMap (fun member => member.2 ++ "; ".toList) ++ ['\n'] =
              "none; 1; \n".toList := by
  intro arguments front
  have accepts : Accepts arguments := ⟨_, rfl⟩
  have enough : 2 ≤ (positionals (parts arguments)).length := by decide
  have plain : ∀ flag ∈ [Flag.header, .verbose, .json], flag ∉ flags (parts arguments) := by
    decide
  have spells : Spells front [.json, .verbose] :=
    .cons (by decide) (by decide) (.cons (by decide) (by decide) .nil)
  have ⟨sameCode, _, _, _, _, succeeded, _⟩ :=
    flags_change_only_presentation accepts enough plain spells Summary.neighbours none
      (some "off".toList)
  have bareCode : (program Summary.neighbours arguments none).code = some 0 := rfl
  have bareOutput :
      (program Summary.neighbours arguments none).output = "none; 1; \n".toList := rfl
  obtain ⟨job, summary, orders, succeeds, _, object⟩ := succeeded bareCode
  obtain ⟨members, read, columns⟩ := object (by decide)
  refine ⟨accepts, enough, plain, spells, sameCode.trans bareCode, job, summary, orders, succeeds,
    members, read, ?_⟩
  rw [columns, bareOutput]

end RuleDigest.Run

import RuleDigest.Proofs.CommandLine.Placement
import RuleDigest.Proofs.Run.Presentation

/-!
# Runs whose options stand elsewhere

Options and positional arguments order the same job wherever the options stand, so that a run
leaves the same behind.
-/

namespace RuleDigest.Run

open CommandLine

section Placement

variable {groups : List Group} {values : List Bytes}

theorem program_congr {arguments other : List Bytes} (same : parse other = parse arguments)
    (workspace : Workspace) (spec? : Option Text) :
    program workspace other spec? = program workspace arguments spec? := by
  rw [program, program, same]

/-- Wherever options stand, the first positional argument is the statistic and the second one
the results directory, and what the run leaves behind is the same. -/
theorem program_places_options (ready : Ready groups values) (workspace : Workspace)
    (spec? : Option Text) :
    ∃ job, values[0]? = some (Utf8.encode job.statistic) ∧ values[1]? = some job.resultsDir ∧
      rulesDirs (groups.map Group.part) = job.rulesDir?.toList ∧
      (job.header = true ↔ .header ∈ flags (groups.map Group.part)) ∧
      (job.json = true ↔ .json ∈ flags (groups.map Group.part)) ∧
      ∀ arguments, Places groups values arguments →
        let outcome := program workspace arguments spec?
        Accepts arguments ∧ Orders arguments job ∧
          (∀ summary, summarize workspace job = .ok summary →
            outcome.code = some 0 ∧ outcome.output = render job summary ∧ outcome.errors = []) ∧
          (∀ failure, summarize workspace job = .error failure →
            outcome.output = [] ∧
              (failure.waits = false →
                outcome.code = some 1 ∧ outcome.errors = failure.report ∧
                  outcome.fault? = failure.fault?) ∧
              (failure.waits = true → outcome.code = none ∧ outcome.errors = [])) ∧
          ∀ other, Places groups values other → program workspace other spec? = outcome := by
  obtain ⟨options, parsed⟩ := ready.exists_options
  have enough {arguments : List Bytes} (places : Places groups values arguments) :
      2 ≤ (positionals (parts arguments)).length := by
    rw [(places.consists ready.valid).order]
    exact ready.enough
  have escaped : Places groups values _ := .before (.refl groups)
  have consists := escaped.consists ready.valid
  obtain ⟨job, ordered, orders⟩ :=
    exists_job (describes_of_parse (parsed _ escaped)) (enough escaped)
  refine ⟨job, ?_, ?_, ?_, ?_, ?_, ?_⟩
  · rw [← orders.statistic, consists.order]
  · rw [← orders.resultsDir, consists.order]
  · rw [← orders.rulesDir, ready.rulesDirs_eq consists]
  · rw [orders.header, consists.flags_perm.mem_iff]
  · rw [orders.json, consists.flags_perm.mem_iff]
  · intro arguments places outcome
    have accepts : Accepts arguments := ⟨options, parsed arguments places⟩
    obtain ⟨otherJob, otherOrdered, otherOrders⟩ :=
      exists_job (describes_of_parse (parsed arguments places)) (enough places)
    rw [ordered, Option.some_inj] at otherOrdered
    subst otherOrdered
    have alike := program_of_orders accepts otherOrders workspace spec?
    refine ⟨accepts, otherOrders, ?_, ?_, ?_⟩
    · intro summary summarized
      rw [summarized] at alike
      exact ⟨alike.code, alike.output, alike.errors⟩
    · intro failure summarized
      rw [summarized] at alike
      refine ⟨alike.output.trans (output_of_failed failure), ?_, ?_⟩
      · intro ends
        rw [conclude_of_ends ends] at alike
        exact ⟨alike.code, alike.errors, alike.fault⟩
      · intro waits
        rw [conclude_of_waits waits] at alike
        exact ⟨alike.code, alike.errors⟩
    · intro other otherPlaces
      apply program_congr
      rw [parsed other otherPlaces, parsed arguments places]

/-- An option between positional arguments, of which one is a lone dash, or all of them after
two dashes. -/
theorem program_places_options_neighbours :
    let header := Group.flag .header (Utf8.ofString "--header")
    let rulesDir := Group.apart (Utf8.ofString "RuleSets")
    let values := [Utf8.ofString "k", Utf8.ofString "R", Utf8.ofString "-"]
    let among := [Utf8.ofString "k", Utf8.ofString "--rules-dir", Utf8.ofString "RuleSets",
      Utf8.ofString "R", Utf8.ofString "-", Utf8.ofString "--header"]
    let before := [Utf8.ofString "--header", Utf8.ofString "--rules-dir", Utf8.ofString "RuleSets",
      Utf8.ofString "--", Utf8.ofString "k", Utf8.ofString "R", Utf8.ofString "-"]
    Ready [header, rulesDir] values ∧ Places [header, rulesDir] values among ∧
      Places [header, rulesDir] values before ∧
      (program Summary.neighbours among none).output = "a-b; a; \nnone; 1; \n".toList ∧
      program Summary.neighbours before none = program Summary.neighbours among none := by
  intro header rulesDir values among before
  have ready : Ready [header, rulesDir] values := by
    refine ⟨by decide, ?_, by decide, ?_, by decide, by decide⟩
    · intro index value found _
      have membership := List.mem_of_getElem? found
      simp only [values, List.mem_cons, List.not_mem_nil, or_false] at membership
      rcases membership with rfl | rfl | rfl
      · exact ⟨"k".toList, rfl⟩
      · exact ⟨"R".toList, rfl⟩
      · exact ⟨"-".toList, rfl⟩
    · intro group membership
      simp only [List.mem_cons, List.not_mem_nil, or_false] at membership
      rcases membership with rfl | rfl
      · exact .flag (by decide)
      · exact .apart (by decide) (by decide)
  have amongPlaces : Places [header, rulesDir] values among := by
    refine .among (.swap header rulesDir []) ?_
    exact .value (by decide) <| .option <| .value (by decide) <| .value (by decide) <|
      .option .nil
  have beforePlaces : Places [header, rulesDir] values before := .before (.refl _)
  obtain ⟨job, _, _, _, _, _, placed⟩ := program_places_options ready Summary.neighbours none
  obtain ⟨accepts, orders, done, _, same⟩ := placed among amongPlaces
  have known : Orders among ⟨"k".toList, Utf8.ofString "R", some (Utf8.ofString "RuleSets"),
      true, false⟩ := ⟨rfl, rfl, rfl, by decide, by decide⟩
  obtain rfl := orders.unique known
  exact ⟨ready, amongPlaces, beforePlaces, (done _ rfl).2.1, same before beforePlaces⟩

end Placement

end RuleDigest.Run

import RuleDigest.Proofs.CommandLine.Acceptance
import RuleDigest.Proofs.CommandLine.Surplus
import RuleDigest.Proofs.Run.Endings

/-!
# Runs with further arguments

Positional arguments beyond the second are read as texts and then left alone.  A run with them
does what it does without them, but for its notes, or it is refused because one of them is no
text.
-/

namespace RuleDigest.Run

open CommandLine

section Surplus

variable {arguments surplus : List Bytes} {workspace : Workspace}

theorem code_ne_two_of_accepts (accepts : Accepts arguments) (spec? : Option Text) :
    (program workspace arguments spec?).code ≠ some 2 := by
  obtain ⟨options, accepted⟩ := accepts
  have performed : (perform workspace options).code ≠ some 2 := by
    unfold perform
    split
    · simp [Outcome.printed]
    next job _ =>
      cases summarize workspace job with
      | ok summary => simp [conclude, Outcome.printed]
      | error failure =>
          change (Outcome.failed failure).code ≠ some 2
          unfold Outcome.failed
          split <;> simp
  rwa [program_run accepted]

/-- Only the notes of a run depend on its further arguments. -/
theorem program_with_extra {other : List Bytes} {options : Options} {extra : List Text}
    (accepted : parse arguments = .ok (.run options))
    (otherAccepted : parse other = .ok (.run { options with extra })) (spec? : Option Text) :
    program workspace other spec? =
      { program workspace arguments spec? with
        notes := (program workspace other spec?).notes } := by
  rw [program_run accepted, program_run otherAccepted]
  rfl

theorem program_refused {error : UsageError} (refused : parse arguments = .error error)
    (spec? : Option Text) :
    program workspace arguments spec? = .refused error := by
  simp only [program, refused]

/-- Further arguments behind two dashes change nothing but the notes exactly if all of them are
texts.  With one that is none the command line is refused and nothing is done. -/
theorem program_ignores_further_arguments_iff (accepts : Accepts arguments)
    (complete : 2 ≤ (positionals (parts arguments)).length)
    (plain : Utf8.ofString "--" ∉ arguments) (surplus : List Bytes) (workspace : Workspace)
    (spec? : Option Text) :
    let bare := program workspace arguments spec?
    let full := program workspace (arguments ++ Utf8.ofString "--" :: surplus) spec?
    (full = { bare with notes := full.notes } ↔
        ∀ value ∈ surplus, ∃ text, value = Utf8.encode text) ∧
      ((∃ value ∈ surplus, ∀ text, value ≠ Utf8.encode text) →
        full = ⟨some 2, [], [], [], UsageError.notUtf8.report, none⟩) := by
  intro bare full
  have ⟨options, accepted⟩ := accepts
  have read := parse_append_surplus accepted complete plain surplus
  have refuses (foreign : ∃ value ∈ surplus, ∀ text, value ≠ Utf8.encode text) :
      full = ⟨some 2, [], [], [], UsageError.notUtf8.report, none⟩ := by
    rw [settle_extra_of_not_texts foreign] at read
    exact program_refused read spec?
  refine ⟨⟨?_, ?_⟩, refuses⟩
  · intro same value membership
    by_cases text : ∃ text, value = Utf8.encode text
    · exact text
    · have refused := refuses ⟨value, membership, not_exists.1 text⟩
      have code : full.code = bare.code := by rw [same]
      rw [refused] at code
      exact absurd code.symm (code_ne_two_of_accepts accepts spec?)
  · intro allTexts
    obtain ⟨texts, rfl⟩ := exists_map_encode allTexts
    rw [settle_extra_eq_ok_iff.2 ⟨texts, rfl, rfl⟩] at read
    exact program_with_extra accepted read spec?

/-- Behind two dashes a flag and an empty argument are further arguments, too. -/
theorem program_ignores_further_arguments_iff_neighbours :
    let arguments := [Utf8.ofString "k", Utf8.ofString "R"]
    let surplus := [Utf8.ofString "--json", [], Utf8.ofString "--"]
    let full := program Summary.neighbours (arguments ++ Utf8.ofString "--" :: surplus) none
    Accepts arguments ∧ 2 ≤ (positionals (parts arguments)).length ∧
      Utf8.ofString "--" ∉ arguments ∧ (∀ value ∈ surplus, ∃ text, value = Utf8.encode text) ∧
      full.code = some 0 ∧ full.output = "none; 1; \n".toList ∧ full.errors = [] := by
  intro arguments surplus full
  have accepts : Accepts arguments := ⟨_, rfl⟩
  have complete : 2 ≤ (positionals (parts arguments)).length := by decide
  have plain : Utf8.ofString "--" ∉ arguments := by decide
  have texts : ∀ value ∈ surplus, ∃ text, value = Utf8.encode text := by
    intro value membership
    simp only [surplus, List.mem_cons, List.not_mem_nil, or_false] at membership
    rcases membership with rfl | rfl | rfl
    · exact ⟨"--json".toList, rfl⟩
    · exact ⟨[], rfl⟩
    · exact ⟨"--".toList, rfl⟩
  have same := (program_ignores_further_arguments_iff accepts complete plain surplus
    Summary.neighbours none).1.2 texts
  refine ⟨accepts, complete, plain, texts, ?_, ?_, ?_⟩
  · exact congrArg Outcome.code same
  · exact congrArg Outcome.output same
  · exact congrArg Outcome.errors same

/-- A further argument of one byte that is no text. -/
theorem program_refuses_a_further_argument :
    let arguments := [Utf8.ofString "k", Utf8.ofString "R"]
    let bare := program Summary.neighbours arguments none
    let full := program Summary.neighbours (arguments ++ Utf8.ofString "--" :: [[0xFF]]) none
    Accepts arguments ∧ 2 ≤ (positionals (parts arguments)).length ∧
      Utf8.ofString "--" ∉ arguments ∧ bare.code = some 0 ∧ bare.output = "none; 1; \n".toList ∧
      full.code = some 2 ∧ full.output = [] ∧
      full.errors = "error: invalid UTF-8 was detected in one or more arguments".toList := by
  intro arguments bare full
  exact ⟨⟨_, rfl⟩, by decide, by decide, rfl, rfl, rfl, rfl, rfl⟩

end Surplus

end RuleDigest.Run

import Mathlib.Data.List.Infix
import RuleDigest.Proofs.Summary.Lines

/-!
# Cutting a line into its values

Values that were found in result files hold no blank and thus no separator.  So the line of a
summary is cut into the values that it was made of as long as the value for what is missing
holds none.
-/

namespace RuleDigest.Summary

/-- How often a pattern stands in a line, places that overlap included. -/
def occurrences (pattern line : Text) : Nat :=
  line.tails.countP pattern.isPrefixOf

section Occurrences

variable {pattern rest : Text} {char : Char}

theorem occurrences_cons_of_begins (begins : pattern <+: char :: rest) :
    occurrences pattern (char :: rest) = occurrences pattern rest + 1 := by
  rw [occurrences, List.tails_cons]
  exact List.countP_cons_of_pos (List.isPrefixOf_iff_prefix.2 begins)

theorem occurrences_cons_of_differs (differs : ¬ pattern <+: char :: rest) :
    occurrences pattern (char :: rest) = occurrences pattern rest := by
  rw [occurrences, List.tails_cons]
  exact List.countP_cons_of_neg (mt List.isPrefixOf_iff_prefix.1 differs)

theorem length_cut (line : Text) : (cut line).length = occurrences separator line + 1 := by
  induction line using cut.induct with
  | case1 => rfl
  | case2 more inductionHypothesis =>
      have here : separator <+: ';' :: ' ' :: more := List.prefix_append separator more
      have notNext : ¬ separator <+: ' ' :: more := by
        rintro ⟨after, same⟩
        cases same
      rw [occurrences_cons_of_begins here, occurrences_cons_of_differs notNext,
        ← inductionHypothesis]
      rfl
  | case3 _ more _ empty => exact absurd empty (cut_ne_nil more)
  | case4 char more within piece others cutMore inductionHypothesis =>
      rw [occurrences_cons_of_differs (not_prefix_of_within within), ← inductionHypothesis,
        cut_cons within cutMore, cutMore]
      rfl

end Occurrences

section Collected

variable {workspace : Workspace} {resultsDir : Bytes} {key missingValue : Text}
  {rules : List Rule} {summary : Summary}

theorem isMissing_or_isToken
    (collected : collect workspace rules resultsDir key missingValue = .ok summary) :
    ∀ value ∈ summary.values, value = missingValue ∨ ResultText.IsToken value := by
  intro value membership
  obtain ⟨rule, _, finds⟩ := exists_finds_of_mem_values collected membership
  rcases finds.cases with isToken | ⟨_, isMissing⟩
  · exact .inr isToken
  · exact .inl isMissing

/-- The line of a summary is cut into its values and an empty rest exactly if none of them holds
a separator.  What is collected is a token or the value for what is missing.  So only the latter
can hold a separator, and otherwise there are as many separators as values. -/
theorem line_is_cut_into_values_iff (summary : Summary) :
    (cut summary.line = summary.values ++ [[]] ↔
        ∀ value ∈ summary.values, ¬ "; ".toList <:+: value) ∧
      ∀ workspace rules resultsDir key missingValue,
        collect workspace rules resultsDir key missingValue = .ok summary →
        (∀ value ∈ summary.values, value = missingValue ∨ ResultText.IsToken value) ∧
          (¬ "; ".toList <:+: missingValue →
            cut summary.line = summary.values ++ [[]] ∧
              occurrences "; ".toList summary.line = summary.size) := by
  have exact_iff : cut summary.line = summary.values ++ [[]] ↔
      ∀ value ∈ summary.values, ¬ "; ".toList <:+: value := cut_joinColumns_iff
  refine ⟨exact_iff, ?_⟩
  intro workspace rules resultsDir key missingValue collected
  have origins := isMissing_or_isToken collected
  refine ⟨origins, fun plain => ?_⟩
  have isCut : cut summary.line = summary.values ++ [[]] := by
    apply exact_iff.2
    intro value membership
    rcases origins value membership with isMissing | isToken
    · rwa [isMissing]
    · exact (plain_of_isToken isToken).2
  refine ⟨isCut, ?_⟩
  have pieces := length_cut summary.line
  rw [isCut, List.length_append, values, List.length_map] at pieces
  exact (Nat.add_right_cancel pieces).symm

/-- Result files of which one ends its value in a semicolon and two lack the key. -/
def semicolons : Workspace :=
  .ofFiles [("R/a.result", "k: 1;\n"), ("R/b.result", ""), ("R/c.result", "j: 2\n")]

theorem line_is_cut_into_values_iff_semicolons :
    let rules : List Rule := [⟨Utf8.ofString "c"⟩, ⟨Utf8.ofString "a"⟩, ⟨Utf8.ofString "b"⟩]
    ∃ summary, collect semicolons rules (Utf8.ofString "R") "k".toList ";".toList = .ok summary ∧
      ¬ "; ".toList <:+: ";".toList ∧ summary.line = "1;; ;; ;; ".toList ∧
      cut summary.line = ["1;".toList, ";".toList, ";".toList, []] ∧
      occurrences "; ".toList summary.line = 3 := by
  intro rules
  let summary : Summary :=
    ⟨[(Utf8.ofString "a.result", "1;".toList), (Utf8.ofString "b.result", ";".toList),
      (Utf8.ofString "c.result", ";".toList)], by decide⟩
  have collected : collect semicolons rules (Utf8.ofString "R") "k".toList ";".toList =
      .ok summary := rfl
  have plain : ¬ "; ".toList <:+: ";".toList := by decide
  obtain ⟨_, isExact⟩ := (line_is_cut_into_values_iff summary).2 _ _ _ _ _ collected
  obtain ⟨isCut, count⟩ := isExact plain
  exact ⟨summary, collected, plain, rfl, isCut, count⟩

end Collected

end RuleDigest.Summary

import Mathlib.Data.List.Perm.Basic
import RuleDigest.Proofs.ResultText.Reading
import RuleDigest.Proofs.Summary.Collection
import RuleDigest.Proofs.Summary.Columns
import RuleDigest.Proofs.Text.Lossy

/-!
# The lines of a summary

Both lines of a summary have a column for each rule, in the order of the names of their result
files: one the rule's shown name, the other its value.  A value that was found in a result file
is a token and thus plain, so that only the value for what is missing can put a line out of order.
-/

namespace RuleDigest

theorem Layout.ruleNameOf_resultFileName (rule : Text) : ruleNameOf (resultFileName rule) = rule := by
  have ends : resultSuffix.isSuffixOf (rule ++ resultSuffix) = true :=
    List.isSuffixOf_iff_suffix.2 (List.suffix_append rule resultSuffix)
  rw [ruleNameOf, resultFileName, if_pos ends, List.length_append, Nat.add_sub_cancel,
    List.take_left]

namespace Summary

theorem plain_of_isToken {text : Text} (isToken : ResultText.IsToken text) : Plain text := by
  have noBlank := isToken.2
  constructor
  · intro broken
    exact absurd (noBlank '\n' broken) (by decide)
  · intro separated
    have inside : ' ' ∈ text := separated.subset (by decide)
    exact absurd (noBlank ' ' inside) (by decide)

/-- The result file of a rule has no value for the key. -/
def LacksKey (workspace : Workspace) (resultsDir : Bytes) (key : Text) (rule : Rule) : Prop :=
  ∃ text, workspace.HoldsText (rule.resultPath resultsDir) text ∧ ResultText.IsValue text key none

/-- Rules with their values make up the lines of a summary, in this order. -/
structure MakeUp (columns : List (Rule × Text)) (summary : Summary) : Prop where
  ascending : (columns.map fun column => column.1.resultFileName).Pairwise (· < ·)
  header : summary.header = joinColumns (columns.map fun column => column.1.displayName)
  line : summary.line = joinColumns (columns.map Prod.snd)

section Columns

variable {workspace : Workspace} {resultsDir : Bytes} {key missingValue : Text}
  {rules : List Rule} {summary : Summary}

theorem exists_columns {entries : List SummaryEntry}
    (recorded : ∀ entry ∈ entries, ∃ rule : Rule, entry.1 = rule.resultFileName ∧
      Finds workspace resultsDir key missingValue rule entry.2) :
    ∃ columns : List (Rule × Text),
      entries = columns.map (fun column => (column.1.resultFileName, column.2)) ∧
        ∀ column ∈ columns, Finds workspace resultsDir key missingValue column.1 column.2 := by
  induction entries with
  | nil => exact ⟨[], rfl, List.forall_mem_nil _⟩
  | cons entry rest inductionHypothesis =>
      obtain ⟨⟨rule, named, finds⟩, restRecorded⟩ := List.forall_mem_cons.1 recorded
      obtain ⟨columns, same, allFind⟩ := inductionHypothesis restRecorded
      refine ⟨(rule, entry.2) :: columns, ?_, List.forall_mem_cons.2 ⟨finds, allFind⟩⟩
      rw [List.map_cons, ← same, ← named]

theorem makeUp_of_entries {columns : List (Rule × Text)}
    (same : summary.entries = columns.map fun column => (column.1.resultFileName, column.2)) :
    MakeUp columns summary := by
  refine ⟨?_, ?_, ?_⟩
  · have ascending := summary.names_ascending
    rwa [same, List.map_map] at ascending
  · simp [header, shownNames, same, Rule.decodeLossy_resultFileName,
      Layout.ruleNameOf_resultFileName, Function.comp_def]
  · simp [line, values, same, Function.comp_def]

/-- The entries are those of the rules with what is found for them, each rule once. -/
theorem Covers.exists_entries
    (covers : Covers workspace resultsDir key missingValue rules summary)
    (distinct : rules.Nodup)
    (readable : ∀ rule ∈ rules, ∃ text, workspace.HoldsText (rule.resultPath resultsDir) text) :
    ∃ columns : List (Rule × Text),
      summary.entries = columns.map (fun column => (column.1.resultFileName, column.2)) ∧
      (columns.map Prod.fst).Perm rules ∧
      ∀ column ∈ columns, Finds workspace resultsDir key missingValue column.1 column.2 := by
  have records : Records workspace resultsDir key missingValue rules summary := covers.recorded
  have recorded : ∀ entry ∈ summary.entries, ∃ rule : Rule, entry.1 = rule.resultFileName ∧
      Finds workspace resultsDir key missingValue rule entry.2 := by
    intro entry membership
    obtain ⟨rule, _, named, finds⟩ := (records entry.1 entry.2).1 (get?_eq_some_iff_mem.2 membership)
    exact ⟨rule, named, finds⟩
  obtain ⟨columns, same, allFind⟩ := exists_columns recorded
  refine ⟨columns, same, ?_, allFind⟩
  have named := records.names_perm distinct readable
  rw [same, List.map_map] at named
  have injective : Function.Injective Rule.resultFileName :=
    fun _ _ alike => Rule.resultFileName_injective alike
  apply (List.map_perm_map_iff injective).1
  rwa [List.map_map]

/-- The rules with what is found for them make up the lines, each rule once. -/
theorem Covers.exists_makeUp
    (covers : Covers workspace resultsDir key missingValue rules summary)
    (distinct : rules.Nodup)
    (readable : ∀ rule ∈ rules, ∃ text, workspace.HoldsText (rule.resultPath resultsDir) text) :
    ∃ columns, MakeUp columns summary ∧ (columns.map Prod.fst).Perm rules ∧
      ∀ column ∈ columns, Finds workspace resultsDir key missingValue column.1 column.2 := by
  obtain ⟨columns, same, perm, allFind⟩ := covers.exists_entries distinct readable
  exact ⟨columns, makeUp_of_entries same, perm, allFind⟩

theorem Finds.cases {rule : Rule} {value : Text}
    (finds : Finds workspace resultsDir key missingValue rule value) :
    ResultText.IsToken value ∨
      LacksKey workspace resultsDir key rule ∧ value = missingValue := by
  obtain ⟨text, holds, rfl⟩ := finds
  cases found : ResultText.extractValue text key with
  | some value => exact .inl (ResultText.isToken_of_extractValue found)
  | none => exact .inr ⟨⟨text, holds, ResultText.isValue_none_iff.2 found⟩, rfl⟩

theorem Finds.eq_missingValue {rule : Rule} {value : Text}
    (finds : Finds workspace resultsDir key missingValue rule value)
    (lacks : LacksKey workspace resultsDir key rule) : value = missingValue := by
  obtain ⟨text, holds, noValue⟩ := lacks
  exact finds.unique ⟨text, holds, by rw [ResultText.isValue_none_iff.1 noValue]; rfl⟩

/-- Values are plain exactly if the value for what is missing is, or nothing is missing. -/
theorem values_plain_iff {columns : List (Rule × Text)}
    (finds : ∀ column ∈ columns, Finds workspace resultsDir key missingValue column.1 column.2) :
    (∀ value ∈ columns.map Prod.snd, Plain value) ↔
      ∀ column ∈ columns, LacksKey workspace resultsDir key column.1 → Plain missingValue := by
  rw [List.forall_mem_map]
  constructor
  · intro plain column membership lacks
    rw [← (finds column membership).eq_missingValue lacks]
    exact plain column membership
  · intro plain column membership
    rcases (finds column membership).cases with isToken | ⟨lacks, isMissing⟩
    · exact plain_of_isToken isToken
    · rw [isMissing]
      exact plain column membership lacks

end Columns

end Summary

end RuleDigest

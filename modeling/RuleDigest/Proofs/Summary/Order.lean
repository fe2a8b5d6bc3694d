import RuleDigest.Proofs.Summary.Collection
import RuleDigest.Report

/-!
# The order of rules

A summary is settled by what is recorded under each name, so rules listed in
another order have the same summary, which is printed alike.  The order can only
decide which of several result files is to blame for a failure.
-/

namespace RuleDigest.Summary

open Workspace

/-! ## Summaries -/

theorem entries_nodup (summary : Summary) : summary.entries.Nodup := by
  refine List.Pairwise.imp ?_ summary.ascending
  intro first second before same
  subst same
  exact List.lt_irrefl first.1 before

/-- Summaries that record the same are the same. -/
theorem ext_get? {first second : Summary} (same : ∀ name, first.get? name = second.get? name) :
    first = second := by
  have sameEntries : first.entries.Perm second.entries := by
    refine (List.perm_ext_iff_of_nodup first.entries_nodup second.entries_nodup).2 ?_
    rintro ⟨name, value⟩
    rw [← get?_eq_some_iff_mem, ← get?_eq_some_iff_mem, same name]
  obtain ⟨entries, ascending⟩ := first
  obtain ⟨others, othersAscending⟩ := second
  have equal : entries = others := by
    refine sameEntries.eq_of_pairwise ?_ ascending othersAscending
    intro entry other _ _ before after
    exact absurd (List.lt_trans before after) (List.lt_irrefl entry.1)
  subst equal
  rfl

variable {workspace : Workspace} {resultsDir : Bytes} {key missingValue : Text}

theorem Records.unique {rules : List Rule} {first second : Summary}
    (firstRecords : Records workspace resultsDir key missingValue rules first)
    (secondRecords : Records workspace resultsDir key missingValue rules second) :
    first = second := by
  apply ext_get?
  intro name
  apply Option.ext
  intro value
  rw [firstRecords name value, secondRecords name value]

theorem Records.perm {first second : List Rule} {summary : Summary} (perm : first.Perm second)
    (records : Records workspace resultsDir key missingValue first summary) :
    Records workspace resultsDir key missingValue second summary := by
  intro name value
  rw [records name value]
  simp only [perm.mem_iff]

/-! ## Collections -/

theorem collect_ok_of_perm {first second : List Rule} (perm : first.Perm second)
    {summary : Summary}
    (collected : collect workspace first resultsDir key missingValue = .ok summary) :
    collect workspace second resultsDir key missingValue = .ok summary := by
  have readable := holdsText_of_collectInto_ok collected
  obtain ⟨other, otherCollected⟩ := collect_ok_iff.2 fun rule membership =>
    readable rule (perm.mem_iff.2 membership)
  have same := ((records_of_collect collected).perm perm).unique (records_of_collect otherCollected)
  rw [otherCollected, same]

theorem exists_blamed_of_collect {rules : List Rule} {error : ResultError}
    (failed : collect workspace rules resultsDir key missingValue = .error error) :
    ∃ rule ∈ rules, Blames workspace resultsDir error rule :=
  (stopsAt_of_collectInto_error failed).exists_blamed

/-- Where one result file holds no text and all the others do, that one is to blame. -/
theorem collect_eq_error_of_sole {rules : List Rule} {rule : Rule} {error : ResultError}
    (membership : rule ∈ rules) (blames : Blames workspace resultsDir error rule)
    (others : ∀ other ∈ rules, other ≠ rule →
      ∃ text, workspace.HoldsText (other.resultPath resultsDir) text) :
    collect workspace rules resultsDir key missingValue = .error error := by
  cases result : collect workspace rules resultsDir key missingValue with
  | ok summary =>
      obtain ⟨text, holds⟩ := holdsText_of_collectInto_ok result rule membership
      exact absurd holds (blames.not_holdsText text)
  | error actual =>
      obtain ⟨culprit, culpritMembership, culpritBlamed⟩ := exists_blamed_of_collect result
      by_cases same : culprit = rule
      · subst same
        rw [culpritBlamed.unique blames]
      · obtain ⟨text, holds⟩ := others culprit culpritMembership same
        exact absurd holds (culpritBlamed.not_holdsText text)

/-- Rules in another order are collected alike.  Both orders lead to a summary or neither
does, and the summaries are the same and so is everything that is printed of them.  If a
single result file holds no text, both end with the same error.  If several do, each ends
with an error about one of them. -/
theorem collect_perm {first second : List Rule} (perm : first.Perm second)
    (workspace : Workspace) (resultsDir : Bytes) (key missingValue : Text) :
    ((∃ summary, collect workspace first resultsDir key missingValue = .ok summary) ↔
        ∃ summary, collect workspace second resultsDir key missingValue = .ok summary) ∧
      (∀ summary other,
        collect workspace first resultsDir key missingValue = .ok summary →
        collect workspace second resultsDir key missingValue = .ok other →
        summary = other ∧ summary.line = other.line ∧ summary.header = other.header ∧
          ∀ statistic header,
            (Report.mk statistic summary header).toLines =
                (Report.mk statistic other header).toLines ∧
              (Report.mk statistic summary header).toJson =
                (Report.mk statistic other header).toJson) ∧
      (∀ rule ∈ first, ∀ error, Blames workspace resultsDir error rule →
        (∀ other ∈ first, other ≠ rule →
          ∃ text, workspace.HoldsText (other.resultPath resultsDir) text) →
        collect workspace first resultsDir key missingValue = .error error ∧
          collect workspace second resultsDir key missingValue = .error error) ∧
      ∀ rules error, rules = first ∨ rules = second →
        collect workspace rules resultsDir key missingValue = .error error →
        ∃ rule ∈ first, rule ∈ second ∧ Blames workspace resultsDir error rule := by
  refine ⟨⟨?_, ?_⟩, ?_, ?_, ?_⟩
  · rintro ⟨summary, collected⟩
    exact ⟨summary, collect_ok_of_perm perm collected⟩
  · rintro ⟨summary, collected⟩
    exact ⟨summary, collect_ok_of_perm perm.symm collected⟩
  · intro summary other collected otherCollected
    have same : summary = other := by
      rw [collect_ok_of_perm perm collected, Except.ok.injEq] at otherCollected
      exact otherCollected
    subst same
    exact ⟨rfl, rfl, rfl, fun statistic header => ⟨rfl, rfl⟩⟩
  · intro rule membership error blames others
    constructor
    · exact collect_eq_error_of_sole membership blames others
    · refine collect_eq_error_of_sole (perm.mem_iff.1 membership) blames ?_
      intro other otherMembership
      exact others other (perm.mem_iff.2 otherMembership)
  · rintro rules error (rfl | rfl) failed
    · obtain ⟨rule, membership, blames⟩ := exists_blamed_of_collect failed
      exact ⟨rule, membership, perm.mem_iff.1 membership, blames⟩
    · obtain ⟨rule, membership, blames⟩ := exists_blamed_of_collect failed
      exact ⟨rule, perm.mem_iff.2 membership, membership, blames⟩

theorem collect_perm_neighbours :
    ∃ summary,
      collect neighbours [⟨Utf8.ofString "a"⟩, ⟨Utf8.ofString "a-b"⟩] (Utf8.ofString "R")
          "k".toList Layout.missingValue = .ok summary ∧
        collect neighbours [⟨Utf8.ofString "a-b"⟩, ⟨Utf8.ofString "a"⟩] (Utf8.ofString "R")
          "k".toList Layout.missingValue = .ok summary := by
  have alike := collect_perm (.swap ⟨Utf8.ofString "a-b"⟩ ⟨Utf8.ofString "a"⟩ []) neighbours
    (Utf8.ofString "R") "k".toList Layout.missingValue
  obtain ⟨summary, collected⟩ := alike.1.1 ⟨_, rfl⟩
  refine ⟨summary, ?_, collected⟩
  rw [← (alike.2.1 _ summary rfl collected).1]
  rfl

end RuleDigest.Summary

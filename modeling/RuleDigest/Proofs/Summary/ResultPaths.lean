import Mathlib.Data.List.Nodup
import RuleDigest.Proofs.RuleSet.Scanning
import RuleDigest.Proofs.Summary.Dependence
import RuleDigest.Proofs.Workspace.Joining

/-!
# Where a collection reads

The rules of a scan have names that are single components of a path, and so do their result
files.  A collection reads each of them right in the results folder, and no two rules share one.
-/

namespace RuleDigest

open Workspace (IsName IsPiece Admits Reachable)

namespace Rule

variable {rule first second : Rule} {resultsDir : Bytes}

theorem isName_resultFileName (isName : IsName rule.name) : IsName rule.resultFileName := by
  have ending : IsPiece (Utf8.encode Layout.resultSuffix) := ⟨by decide, by decide, by decide⟩
  have longer {name : Bytes} (short : name.length < 7) : rule.resultFileName ≠ name := by
    rintro rfl
    have length : (Utf8.encode Layout.resultSuffix).length = 7 := by decide
    rw [resultFileName, List.length_append, length] at short
    omega
  refine ⟨⟨?_, ?_, ?_⟩, longer (by decide), longer (by decide)⟩
  · exact List.append_ne_nil_of_left_ne_nil isName.filled _
  · exact List.not_mem_append isName.whole ending.whole
  · exact List.not_mem_append isName.noNul ending.noNul

theorem enters_resultPath (isName : IsName rule.name) (filled : resultsDir ≠ []) :
    Path.Enters resultsDir rule.resultFileName (rule.resultPath resultsDir) :=
  Path.enters_join (isName_resultFileName isName) filled

/-- No spelling of the path of a rule's result file is that of another rule. -/
theorem eq_of_equivalent_resultPath (filled : resultsDir ≠ []) (firstName : IsName first.name)
    (secondName : IsName second.name)
    (same : Path.Equivalent (first.resultPath resultsDir) (second.resultPath resultsDir)) :
    first = second :=
  resultFileName_injective
    ((enters_resultPath firstName filled).name_unique (enters_resultPath secondName filled) same)

end Rule

namespace Summary

variable {workspace : Workspace} {root resultsDir : Bytes} {ruleSet : RuleSet}

theorem resultPaths_nodup {rules : List Rule} (filled : resultsDir ≠ []) (distinct : rules.Nodup)
    (named : ∀ rule ∈ rules, IsName rule.name) :
    (rules.map fun rule => rule.resultPath resultsDir).Nodup := by
  refine List.Nodup.map_on ?_ distinct
  intro first firstMembership second secondMembership same
  apply Rule.eq_of_equivalent_resultPath filled (named first firstMembership)
    (named second secondMembership)
  rw [same]
  exact ⟨rfl, rfl⟩

/-- The rules of a scan have names of one component each.  Whatever has become of the workspace
since, a collection reads for each of them one file, right in the results folder and of the
rule's own name with the ending behind it, and records under that name what it finds there.  It
succeeds exactly if all these files hold texts. -/
theorem collect_reads_own_results (reachable : Reachable workspace)
    (scanned : RuleSet.scan workspace root = .ok ruleSet) (filled : resultsDir ≠ []) :
    (∀ rule ∈ ruleSet.rules,
        IsName rule.name ∧ IsName rule.resultFileName ∧
          rule.resultFileName = rule.name ++ Utf8.ofString ".result" ∧
          Path.Enters resultsDir rule.resultFileName (rule.resultPath resultsDir)) ∧
      (ruleSet.rules.map fun rule => rule.resultPath resultsDir).Nodup ∧
      (ruleSet.rules.map Rule.resultFileName).Nodup ∧
      (∀ first ∈ ruleSet.rules, ∀ second ∈ ruleSet.rules, first ≠ second →
        ¬ Path.Equivalent (first.resultPath resultsDir) (second.resultPath resultsDir)) ∧
      ∀ (current : Workspace) (key missingValue : Text),
        let collected := collect current ruleSet.rules resultsDir key missingValue
        (∀ other : Workspace,
          (∀ rule ∈ ruleSet.rules,
            current.read (rule.resultPath resultsDir) = other.read (rule.resultPath resultsDir)) →
          collected = collect other ruleSet.rules resultsDir key missingValue) ∧
        ((∃ summary, collected = .ok summary) ↔
          ∀ rule ∈ ruleSet.rules, ∃ text,
            current.HoldsText (rule.resultPath resultsDir) text) ∧
        (∀ summary, collected = .ok summary →
          (summary.entries.map Prod.fst).Perm (ruleSet.rules.map Rule.resultFileName) ∧
            ∀ rule ∈ ruleSet.rules, ∃ value,
              summary.get? rule.resultFileName = some value ∧
                Finds current resultsDir key missingValue rule value) ∧
        (∀ error, collected = .error error →
          ∃ rule ∈ ruleSet.rules, error.path = rule.resultPath resultsDir) ∧
        ∀ rule ∈ ruleSet.rules, ∀ folder, Admits current resultsDir rule.resultFileName folder →
          (∀ content, current.node? (rule.resultFileName :: folder) = some (.file content) →
            current.stat (rule.resultPath resultsDir) = .ok (.file content)) ∧
          (current.node? (rule.resultFileName :: folder) = none →
            current.stat (rule.resultPath resultsDir) = .error .notFound) := by
  have distinct := RuleSet.rules_nodup scanned
  have named : ∀ rule ∈ ruleSet.rules, IsName rule.name :=
    fun rule => RuleSet.isName_of_mem_rules reachable.sound scanned
  refine ⟨?_, resultPaths_nodup filled distinct named, Rule.resultFileNames_nodup distinct, ?_,
    ?_⟩
  · intro rule membership
    have isName := named rule membership
    exact ⟨isName, Rule.isName_resultFileName isName, rfl, Rule.enters_resultPath isName filled⟩
  · intro first firstMembership second secondMembership differ same
    exact differ (Rule.eq_of_equivalent_resultPath filled (named first firstMembership)
      (named second secondMembership) same)
  · intro current key missingValue collected
    refine ⟨fun other same => collectInto_congr same empty, collect_ok_iff, ?_, ?_, ?_⟩
    · intro summary isSummary
      have records := records_of_collect isSummary
      have readable := holdsText_of_collectInto_ok isSummary
      refine ⟨records.names_perm distinct readable, ?_⟩
      intro rule membership
      obtain ⟨text, holds⟩ := readable rule membership
      have finds : Finds current resultsDir key missingValue rule _ := ⟨text, holds, rfl⟩
      exact ⟨_, (records _ _).2 ⟨rule, membership, rfl, finds⟩, finds⟩
    · intro error failed
      obtain ⟨rule, membership, blames⟩ := exists_blamed_of_collect failed
      exact ⟨rule, membership, blames.1⟩
    · intro rule _ folder admits
      exact ⟨fun content found => admits.stat_of_node found nofun, admits.stat_of_absent⟩

/-- A rule of three dots, one that is a link, and results in a folder that is reached by another
link. -/
def dotted : Workspace :=
  [Edit.write (Utf8.ofString "Q/...") [],
    .makeLink (Utf8.ofString "...") (Utf8.ofString "Q/a"),
    .write (Utf8.ofString "R/a.result") (Utf8.ofString "k: 1"),
    .makeLink (Utf8.ofString "R") (Utf8.ofString "L")].foldl Workspace.edited .empty

theorem collect_reads_own_results_dotted :
    let rules : List Rule := [⟨Utf8.ofString "..."⟩, ⟨Utf8.ofString "a"⟩]
    Reachable dotted ∧
      RuleSet.scan dotted (Utf8.ofString "Q") = .ok ⟨Utf8.ofString "Q", rules⟩ ∧
      (∀ rule ∈ rules, IsName rule.resultFileName) ∧
      Path.Enters (Utf8.ofString "L/") (Utf8.ofString "a.result") (Utf8.ofString "L/a.result") ∧
      [Utf8.ofString "L/....result", Utf8.ofString "L/a.result"].Nodup ∧
      dotted.stat (Utf8.ofString "L/a.result") = .ok (.file (Utf8.ofString "k: 1")) ∧
      dotted.stat (Utf8.ofString "L/....result") = .error .notFound := by
  intro rules
  have reachable : Reachable dotted := .foldl_edited .empty _
  have scanned : RuleSet.scan dotted (Utf8.ofString "Q") = .ok ⟨Utf8.ofString "Q", rules⟩ := rfl
  have filled : Utf8.ofString "L/" ≠ [] := by decide
  have folder : dotted.resolve (Utf8.ofString "L/") = .ok (Utf8.ofString "R" :: dotted.here) := rfl
  have first : Rule.mk (Utf8.ofString "...") ∈ rules := by simp [rules]
  have second : Rule.mk (Utf8.ofString "a") ∈ rules := by simp [rules]
  have admits {rule : Rule} (isName : IsName rule.resultFileName)
      (fitting : rule.resultFileName.length ≤ Workspace.nameLimit)
      (short : (rule.resultPath (Utf8.ofString "L/")).length < Workspace.pathLimit) :
      Admits dotted (Utf8.ofString "L/") rule.resultFileName (Utf8.ofString "R" :: dotted.here) :=
    ⟨folder, rfl, isName, fitting, short⟩
  obtain ⟨each, distinct, _, _, reads⟩ := collect_reads_own_results reachable scanned filled
  obtain ⟨_, _, _, _, leads⟩ := reads dotted "k".toList Layout.missingValue
  have firstName := (each _ first).2.1
  have secondName := (each _ second).2.1
  refine ⟨reachable, scanned, fun rule membership => (each rule membership).2.1,
    (each _ second).2.2.2, distinct, ?_, ?_⟩
  · exact (leads _ second _ (admits secondName (by decide) (by decide))).1 _ rfl
  · exact (leads _ first _ (admits firstName (by decide) (by decide))).2 rfl

end Summary

end RuleDigest

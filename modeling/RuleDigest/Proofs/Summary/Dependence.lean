import RuleDigest.Proofs.Summary.Order

/-!
# What a collection depends on

A collection looks at the names of the rules and at their result files, and at
nothing else in the workspace.  Two workspaces that agree on these have the same
outcome, whatever the rules themselves hold and whatever else lies around.

The order of a listing is the only thing that could still be seen, by way of the
result file at which a failing collection stops.  With at most one such file it
cannot be seen either.
-/

namespace RuleDigest

/-- The result file of a rule cannot be read as a text. -/
def Rule.Unreadable (workspace : Workspace) (resultsDir : Bytes) (rule : Rule) : Prop :=
  ∃ fault, workspace.LacksText (rule.resultPath resultsDir) fault

theorem Rule.readable_of_holdsText {workspace : Workspace} {resultsDir : Bytes} {rule : Rule}
    {text : Text} (holds : workspace.HoldsText (rule.resultPath resultsDir) text) :
    ¬ rule.Unreadable workspace resultsDir := by
  rintro ⟨fault, lacks⟩
  exact lacks.not_holdsText text holds

theorem Rule.exists_text_of_readable {workspace : Workspace} {resultsDir : Bytes} {rule : Rule}
    (readable : ¬ rule.Unreadable workspace resultsDir) :
    ∃ text, workspace.HoldsText (rule.resultPath resultsDir) text := by
  rcases workspace.holdsText_or_lacksText (rule.resultPath resultsDir) with holds | lacks
  · exact holds
  · exact absurd lacks readable

namespace Summary

open RuleSet (HoldsRule)

/-- Two workspaces hold the same rules, whose result files read alike and of which at most
one cannot be read as a text. -/
structure Agree (first second : Workspace) (rulesDir resultsDir : Bytes) : Prop where
  firstDirectory : first.isDirectory rulesDir = true
  secondDirectory : second.isDirectory rulesDir = true
  rules : ∀ name, HoldsRule first rulesDir name ↔ HoldsRule second rulesDir name
  results : ∀ rule : Rule, HoldsRule first rulesDir rule.name →
    first.read (rule.resultPath resultsDir) = second.read (rule.resultPath resultsDir)
  sole : ∀ rule other : Rule, HoldsRule first rulesDir rule.name →
    HoldsRule first rulesDir other.name → rule.Unreadable first resultsDir →
    other.Unreadable first resultsDir → rule = other

section Reads

variable {first second : Workspace} {resultsDir : Bytes} {key missingValue : Text}

theorem readValue_congr {path : Bytes} (same : first.read path = second.read path) :
    ResultText.readValue first path key = ResultText.readValue second path key := by
  simp only [ResultText.readValue, Workspace.readText, same]

/-- A collection opens the result files of its rules and no other file. -/
theorem collectInto_congr {rules : List Rule}
    (same : ∀ rule ∈ rules,
      first.read (rule.resultPath resultsDir) = second.read (rule.resultPath resultsDir))
    (summary : Summary) :
    collectInto first resultsDir key missingValue summary rules =
      collectInto second resultsDir key missingValue summary rules := by
  induction rules generalizing summary with
  | nil => rfl
  | cons rule rest inductionHypothesis =>
      obtain ⟨sameHere, sameLater⟩ := List.forall_mem_cons.1 same
      simp only [collectInto, readValue_congr sameHere, inductionHypothesis sameLater]

end Reads

section Orders

variable {workspace : Workspace} {resultsDir : Bytes} {key missingValue : Text}

/-- With at most one unreadable result file the order of the rules cannot be seen. -/
theorem collect_eq_of_perm {rules others : List Rule} (perm : rules.Perm others)
    (sole : ∀ rule ∈ rules, ∀ other ∈ rules, rule.Unreadable workspace resultsDir →
      other.Unreadable workspace resultsDir → rule = other) :
    collect workspace rules resultsDir key missingValue =
      collect workspace others resultsDir key missingValue := by
  cases collected : collect workspace rules resultsDir key missingValue with
  | ok summary => rw [collect_ok_of_perm perm collected]
  | error error =>
      obtain ⟨rule, membership, blames⟩ := exists_blamed_of_collect collected
      symm
      apply collect_eq_error_of_sole (perm.mem_iff.1 membership) blames
      intro other otherMembership differs
      apply Rule.exists_text_of_readable
      intro unreadable
      apply differs
      exact sole other (perm.mem_iff.2 otherMembership) rule membership unreadable ⟨_, blames.2⟩

end Orders

variable {first second : Workspace} {resultsDir : Bytes}

/-- Whether two workspaces agree can be seen from what is scanned. -/
theorem agree_of_scan {rulesDir : Bytes} {firstSet secondSet : RuleSet}
    (firstScanned : RuleSet.scan first rulesDir = .ok firstSet)
    (secondScanned : RuleSet.scan second rulesDir = .ok secondSet)
    (perm : firstSet.rules.Perm secondSet.rules)
    (results : ∀ rule ∈ firstSet.rules,
      first.read (rule.resultPath resultsDir) = second.read (rule.resultPath resultsDir))
    (sole : ∀ rule ∈ firstSet.rules, ∀ other ∈ firstSet.rules,
      rule.Unreadable first resultsDir → other.Unreadable first resultsDir → rule = other) :
    Agree first second rulesDir resultsDir where
  firstDirectory := RuleSet.exists_scan_iff.1 ⟨firstSet, firstScanned⟩
  secondDirectory := RuleSet.exists_scan_iff.1 ⟨secondSet, secondScanned⟩
  rules name := by
    rw [← RuleSet.mem_rules_iff firstScanned ⟨name⟩, ← RuleSet.mem_rules_iff secondScanned ⟨name⟩]
    exact perm.mem_iff
  results rule holds := results rule ((RuleSet.mem_rules_iff firstScanned rule).2 holds)
  sole rule other holds otherHolds :=
    sole rule ((RuleSet.mem_rules_iff firstScanned rule).2 holds) other
      ((RuleSet.mem_rules_iff firstScanned other).2 otherHolds)

/-- Workspaces that agree list the same rules, each in its own order. -/
theorem Agree.rules_perm {rulesDir : Bytes} {firstSet secondSet : RuleSet}
    (agree : Agree first second rulesDir resultsDir)
    (firstScanned : RuleSet.scan first rulesDir = .ok firstSet)
    (secondScanned : RuleSet.scan second rulesDir = .ok secondSet) :
    firstSet.rules.Perm secondSet.rules := by
  refine (List.perm_ext_iff_of_nodup (RuleSet.rules_nodup firstScanned)
    (RuleSet.rules_nodup secondScanned)).2 ?_
  intro rule
  rw [RuleSet.mem_rules_iff firstScanned, RuleSet.mem_rules_iff secondScanned, agree.rules]

/-- The outcome of a collection depends on nothing but the names of the rules and what is
read from their result files. -/
theorem aggregate_eq_of_agree {config : Config}
    (agree : Agree first second config.rulesDir resultsDir) (key : Text) :
    aggregate first config key resultsDir = aggregate second config key resultsDir := by
  obtain ⟨firstSet, firstScanned⟩ := RuleSet.exists_scan_iff.2 agree.firstDirectory
  obtain ⟨secondSet, secondScanned⟩ := RuleSet.exists_scan_iff.2 agree.secondDirectory
  have held {rule : Rule} (membership : rule ∈ firstSet.rules) :
      HoldsRule first config.rulesDir rule.name :=
    (RuleSet.mem_rules_iff firstScanned rule).1 membership
  have perm := agree.rules_perm firstScanned secondScanned
  have sameReads : ∀ rule ∈ secondSet.rules,
      first.read (rule.resultPath resultsDir) = second.read (rule.resultPath resultsDir) := by
    intro rule membership
    exact agree.results rule (held (perm.mem_iff.2 membership))
  have sameCollections :
      collect first firstSet.rules resultsDir key config.missingValue =
        collect second secondSet.rules resultsDir key config.missingValue := by
    calc
      collect first firstSet.rules resultsDir key config.missingValue
      _ = collect first secondSet.rules resultsDir key config.missingValue := by
        apply collect_eq_of_perm perm
        intro rule membership other otherMembership unreadable otherUnreadable
        exact agree.sole rule other (held membership) (held otherMembership) unreadable
          otherUnreadable
      _ = collect second secondSet.rules resultsDir key config.missingValue :=
        collectInto_congr sameReads empty
  simp only [aggregate, firstScanned, secondScanned, sameCollections]

/-- Two rules with a result each in one folder, of which another folder lacks one. -/
def tidy : Workspace :=
  .ofFiles
    [("RuleSets/a", ""), ("RuleSets/b", ""), ("R/a.result", "k: 1"), ("R/b.result", ""),
      ("Q/a.result", "k: 3")]

/-- The same rules the other way round, with contents, a subdirectory, a dangling link, a pipe
and the result of a rule that is gone. -/
def cluttered : Workspace :=
  [Edit.makeLink (Utf8.ofString "nowhere") (Utf8.ofString "RuleSets/l"),
    .makePipe (Utf8.ofString "RuleSets/p")].foldl Workspace.edited
      (.ofFiles
        [("RuleSets/b", "text"), ("RuleSets/d/c", "k: 9"), ("Q/a.result", "k: 3"),
          ("RuleSets/a", "k: 9"), ("R/gone.result", "k: 9"), ("R/b.result", ""),
          ("R/a.result", "k: 1")])

theorem aggregate_eq_of_agree_cluttered :
    (Agree tidy cluttered Layout.rulesDir (Utf8.ofString "R") ∧
      aggregate tidy .default "k".toList (Utf8.ofString "R") =
        aggregate cluttered .default "k".toList (Utf8.ofString "R")) ∧
    Agree tidy cluttered Layout.rulesDir (Utf8.ofString "Q") ∧
      aggregate tidy .default "k".toList (Utf8.ofString "Q") =
        aggregate cluttered .default "k".toList (Utf8.ofString "Q") := by
  have tidyScanned : RuleSet.scan tidy Layout.rulesDir =
      .ok ⟨Layout.rulesDir, [⟨Utf8.ofString "a"⟩, ⟨Utf8.ofString "b"⟩]⟩ := rfl
  have clutteredScanned : RuleSet.scan cluttered Layout.rulesDir =
      .ok ⟨Layout.rulesDir, [⟨Utf8.ofString "b"⟩, ⟨Utf8.ofString "a"⟩]⟩ := rfl
  have perm : [Rule.mk (Utf8.ofString "a"), ⟨Utf8.ofString "b"⟩].Perm
      [⟨Utf8.ofString "b"⟩, ⟨Utf8.ofString "a"⟩] := .swap _ _ []
  have firstOfR : tidy.HoldsText (Utf8.ofString "R/a.result") "k: 1".toList := rfl
  have secondOfR : tidy.HoldsText (Utf8.ofString "R/b.result") [] := rfl
  have firstOfQ : tidy.HoldsText (Utf8.ofString "Q/a.result") "k: 3".toList := rfl
  have firstOfOtherR : cluttered.HoldsText (Utf8.ofString "R/a.result") "k: 1".toList := rfl
  have secondOfOtherR : cluttered.HoldsText (Utf8.ofString "R/b.result") [] := rfl
  have firstOfOtherQ : cluttered.HoldsText (Utf8.ofString "Q/a.result") "k: 3".toList := rfl
  have secondOfQ : tidy.read (Utf8.ofString "Q/b.result") = .error (.refused .notFound) := rfl
  have secondOfOtherQ : cluttered.read (Utf8.ofString "Q/b.result") = .error (.refused .notFound) := rfl
  have either {rule : Rule} (membership : rule ∈ [Rule.mk (Utf8.ofString "a"), ⟨Utf8.ofString "b"⟩]) :
      rule = ⟨Utf8.ofString "a"⟩ ∨ rule = ⟨Utf8.ofString "b"⟩ := by
    simpa using membership
  have firstAgree : Agree tidy cluttered Layout.rulesDir (Utf8.ofString "R") := by
    refine agree_of_scan tidyScanned clutteredScanned perm ?_ ?_
    · intro rule membership
      rcases either membership with rfl | rfl
      · exact Eq.trans firstOfR firstOfOtherR.symm
      · exact Eq.trans secondOfR secondOfOtherR.symm
    · intro rule membership other _ unreadable _
      rcases either membership with rfl | rfl
      · exact absurd unreadable (Rule.readable_of_holdsText firstOfR)
      · exact absurd unreadable (Rule.readable_of_holdsText secondOfR)
  have secondAgree : Agree tidy cluttered Layout.rulesDir (Utf8.ofString "Q") := by
    refine agree_of_scan tidyScanned clutteredScanned perm ?_ ?_
    · intro rule membership
      rcases either membership with rfl | rfl
      · exact Eq.trans firstOfQ firstOfOtherQ.symm
      · exact secondOfQ.trans secondOfOtherQ.symm
    · intro rule membership other otherMembership unreadable otherUnreadable
      rcases either membership with rfl | rfl
      · exact absurd unreadable (Rule.readable_of_holdsText firstOfQ)
      · rcases either otherMembership with rfl | rfl
        · exact absurd otherUnreadable (Rule.readable_of_holdsText firstOfQ)
        · rfl
  exact ⟨⟨firstAgree, aggregate_eq_of_agree firstAgree _⟩, secondAgree,
    aggregate_eq_of_agree secondAgree _⟩

end Summary

end RuleDigest

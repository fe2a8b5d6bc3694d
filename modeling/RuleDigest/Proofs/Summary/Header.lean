import RuleDigest.Proofs.Summary.Lines

/-!
# The header and the line

The header of a summary and its line list the same rules, in ascending order of the names of
their result files.  This need not be the order of the names of the rules, since what follows
the shorter of two names is compared with the ending of a result file.
-/

namespace RuleDigest

/-- The result file of the first rule does not come after that of the second. -/
def Rule.precedes (first second : Rule) : Bool :=
  first.resultFileName ≤ second.resultFileName

namespace Rule

variable {first second : Rule}

theorem precedes_iff : first.precedes second ↔ first.resultFileName ≤ second.resultFileName :=
  decide_eq_true_iff

theorem precedes_trans (first second third : Rule) (before : first.precedes second)
    (after : second.precedes third) : first.precedes third :=
  precedes_iff.2 (List.le_trans (precedes_iff.1 before) (precedes_iff.1 after))

theorem precedes_total (first second : Rule) : first.precedes second || second.precedes first := by
  rw [Bool.or_eq_true, precedes_iff, precedes_iff]
  exact List.le_total _ _

theorem precedes_antisymm (before : first.precedes second) (after : second.precedes first) :
    first = second :=
  resultFileName_injective (List.le_antisymm (precedes_iff.1 before) (precedes_iff.1 after))

end Rule

namespace Summary

/-- The rules in ascending order of the names of their result files. -/
def inFileOrder (rules : List Rule) : List Rule :=
  rules.mergeSort Rule.precedes

variable {rules ordered : List Rule}

theorem inFileOrder_perm (rules : List Rule) : (inFileOrder rules).Perm rules :=
  List.mergeSort_perm rules _

theorem eq_inFileOrder (perm : ordered.Perm rules)
    (ascending : (ordered.map Rule.resultFileName).Pairwise (· < ·)) :
    ordered = inFileOrder rules := by
  have sorted : (inFileOrder rules).Pairwise (Rule.precedes · ·) :=
    List.pairwise_mergeSort Rule.precedes_trans Rule.precedes_total rules
  have ascends : ordered.Pairwise (Rule.precedes · ·) :=
    (List.pairwise_map.1 ascending).imp fun before => Rule.precedes_iff.2 (List.le_of_lt before)
  refine List.Perm.eq_of_pairwise ?_ ascends sorted (perm.trans (inFileOrder_perm rules).symm)
  intro first second _ _
  exact Rule.precedes_antisymm

section Lines

variable {workspace : Workspace} {resultsDir : Bytes} {key missingValue : Text}
  {summary : Summary}

/-- The columns of both lines belong to the same rules, in ascending order of the names of their
result files: in the header their shown names, and in the line the values recorded for them.
The shown name of a result file leads back to that of its rule, whatever bytes they consist of. -/
theorem lines_follow_result_files (distinct : (rules.map Rule.name).Nodup)
    (collected : collect workspace rules resultsDir key missingValue = .ok summary) :
    (inFileOrder rules).Perm rules ∧
      ((inFileOrder rules).map Rule.resultFileName).Pairwise (· < ·) ∧
      summary.header =
        (inFileOrder rules).flatMap (fun rule => rule.displayName ++ "; ".toList) ∧
      (∃ columns : List (Rule × Text), columns.map Prod.fst = inFileOrder rules ∧
        (∀ column ∈ columns, summary.get? column.1.resultFileName = some column.2 ∧
          Finds workspace resultsDir key missingValue column.1 column.2) ∧
        summary.line = columns.flatMap fun column => column.2 ++ "; ".toList) ∧
      ∀ name, Layout.ruleNameOf (Utf8.decodeLossy (name ++ Utf8.ofString ".result")) =
        Utf8.decodeLossy name := by
  have rulesDistinct : rules.Nodup :=
    (List.pairwise_map.1 distinct).imp fun differ same => differ (congrArg Rule.name same)
  have covers := covers_of_collect rulesDistinct collected
  have readable := holdsText_of_collectInto_ok collected
  obtain ⟨columns, ⟨ascending, header, line⟩, perm, finds⟩ :=
    covers.exists_makeUp rulesDistinct readable
  have fileAscending : ((columns.map Prod.fst).map Rule.resultFileName).Pairwise (· < ·) := by
    rwa [List.map_map]
  have order : columns.map Prod.fst = inFileOrder rules := eq_inFileOrder perm fileAscending
  refine ⟨inFileOrder_perm rules, ?_, ?_, ⟨columns, order, ?_, ?_⟩, ?_⟩
  · rwa [← order]
  · rw [header, ← order, joinColumns, List.flatMap_map, List.flatMap_map, separator]
  · intro column membership
    have known : column.1 ∈ rules := perm.mem_iff.1 (List.mem_map_of_mem membership)
    have found := finds column membership
    exact ⟨(covers.recorded _ _).2 ⟨column.1, known, rfl, found⟩, found⟩
  · rw [line, joinColumns, List.flatMap_map, separator]
  · intro name
    have shown : Utf8.decodeLossy (name ++ Utf8.ofString ".result") =
        Layout.resultFileName (Utf8.decodeLossy name) :=
      Rule.decodeLossy_resultFileName ⟨name⟩
    rw [shown, Layout.ruleNameOf_resultFileName]

/-- Result files of rules whose names are in the other order than theirs, end in the middle of a
character or end like a result file. -/
def misnamed : Workspace :=
  [Edit.write (Utf8.ofString "R/a.result") (Utf8.ofString "k: 1"),
    .write (Utf8.ofString "R/a-b.result") (Utf8.ofString "k: 2"),
    .write (Utf8.ofString "R/a" ++ [0xE2, 0x82] ++ Utf8.ofString ".result") (Utf8.ofString "k: 3"),
    .write (Utf8.ofString "R/x.result.result") []].foldl Workspace.edited .empty

theorem lines_follow_result_files_misnamed :
    let rules : List Rule := [⟨Utf8.ofString "a"⟩, ⟨Utf8.ofString "a-b"⟩,
      ⟨Utf8.ofString "x.result"⟩, ⟨Utf8.ofString "a" ++ [0xE2, 0x82]⟩]
    (rules.map Rule.name).Nodup ∧ ∃ summary,
      collect misnamed rules (Utf8.ofString "R") "k".toList Layout.missingValue = .ok summary ∧
        summary.header = "a-b; a; a\uFFFD; x.result; ".toList ∧
        summary.line = "2; 1; 3; none; ".toList := by
  intro rules
  have distinct : (rules.map Rule.name).Nodup := by decide
  have order : [⟨Utf8.ofString "a-b"⟩, ⟨Utf8.ofString "a"⟩,
      ⟨Utf8.ofString "a" ++ [0xE2, 0x82]⟩, ⟨Utf8.ofString "x.result"⟩] = inFileOrder rules :=
    eq_inFileOrder (by decide) (by decide)
  let summary : Summary :=
    ⟨[(Utf8.ofString "a-b.result", "2".toList), (Utf8.ofString "a.result", "1".toList),
      (Utf8.ofString "a" ++ [0xE2, 0x82] ++ Utf8.ofString ".result", "3".toList),
      (Utf8.ofString "x.result.result", "none".toList)], by decide⟩
  have collected : collect misnamed rules (Utf8.ofString "R") "k".toList Layout.missingValue =
      .ok summary := rfl
  have ⟨_, _, header, _⟩ := lines_follow_result_files distinct collected
  refine ⟨distinct, summary, collected, ?_, rfl⟩
  rw [header, ← order]
  rfl

end Lines

end Summary

end RuleDigest

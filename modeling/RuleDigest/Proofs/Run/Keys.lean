import Mathlib.Data.List.Nodup
import RuleDigest.Proofs.Report.Encoding
import RuleDigest.Proofs.Run.Endings
import RuleDigest.Proofs.Text.Lossy

/-!
# The keys of the JSON object

The object of values has one member for every rule.  Its keys are shown names, so
two rules repeat a key if they are shown alike, which takes a name that is not
UTF-8.  Without such rules no key is repeated and every rule is found by its key.
-/

namespace RuleDigest

namespace Summary

variable {workspace : Workspace} {resultsDir : Bytes} {key missingValue : Text}
  {rules : List Rule} {summary : Summary}

theorem Covers.shownNames_perm
    (covers : Covers workspace resultsDir key missingValue rules summary)
    (distinct : rules.Nodup)
    (readable : ∀ rule ∈ rules, ∃ text, workspace.HoldsText (rule.resultPath resultsDir) text) :
    summary.shownNames.Perm (rules.map fun rule => Layout.resultFileName rule.displayName) := by
  have records : Records workspace resultsDir key missingValue rules summary := covers.recorded
  have shown := (records.names_perm distinct readable).map Utf8.decodeLossy
  simpa [shownNames, Function.comp_def, Rule.decodeLossy_resultFileName] using shown

/-- A shown name is repeated exactly if two rules are shown alike. -/
theorem Covers.shownNames_nodup_iff
    (covers : Covers workspace resultsDir key missingValue rules summary)
    (distinct : rules.Nodup)
    (readable : ∀ rule ∈ rules, ∃ text, workspace.HoldsText (rule.resultPath resultsDir) text) :
    summary.shownNames.Nodup ↔
      ∀ rule ∈ rules, ∀ other ∈ rules, rule.displayName = other.displayName → rule = other := by
  rw [(covers.shownNames_perm distinct readable).nodup_iff, List.nodup_map_iff_inj_on distinct]
  simp [Layout.resultFileName]

end Summary

namespace Run

open CommandLine
open RuleSet (HoldsRule)

variable {workspace : Workspace} {arguments : List Bytes} {spec? : Option Text}

/-- The object that a run prints is read back. -/
theorem read?_output_of_code (accepts : Accepts arguments)
    (json : .json ∈ flags (parts arguments))
    (succeeded : (program workspace arguments spec?).code = some 0) :
    ∃ job summary, Orders arguments job ∧ Succeeds workspace job summary ∧
      Json.read? (program workspace arguments spec?).output =
        some (Report.mk job.statistic summary job.header).json := by
  obtain ⟨job, summary, orders, succeeds, printed⟩ := succeeds_of_code accepts succeeded
  have blank : Json.skipSpaces ['\n'] = [] := rfl
  refine ⟨job, summary, orders, succeeds, ?_⟩
  rw [printed, render, if_pos (orders.json.2 json), Report.read?_toJson _ blank]

/-- The object that is printed has one member for every rule that the rules directory holds.
No key is repeated exactly if no two of the rules are shown alike, as is so if their names are
UTF-8, and then a look-up finds the value of every rule. -/
theorem json_has_a_member_for_every_rule (accepts : Accepts arguments)
    (json : .json ∈ flags (parts arguments))
    (succeeded : (program workspace arguments spec?).code = some 0) :
    ∃ (job : Job) (config : Config) (rules : List Rule) (members : List (Text × Json)),
      Orders arguments job ∧ Config.load workspace Path.dot = .ok config ∧
      Json.read? (program workspace arguments spec?).output =
        some (.object
          [("stat".toList, .string job.statistic), ("values".toList, .object members)]) ∧
      rules.Nodup ∧
      (∀ rule, rule ∈ rules ↔ HoldsRule workspace (job.rulesDirUnder config) rule.name) ∧
      members.length = rules.length ∧
      (members.map Prod.fst).Perm
        (rules.map fun rule => Layout.resultFileName rule.displayName) ∧
      ((members.map Prod.fst).Nodup ↔
        ∀ rule ∈ rules, ∀ other ∈ rules, rule.displayName = other.displayName → rule = other) ∧
      ((∀ rule ∈ rules, ∃ text, rule.name = Utf8.encode text) → (members.map Prod.fst).Nodup) ∧
      ((members.map Prod.fst).Nodup → ∀ rule ∈ rules, ∃ value,
        Summary.Finds workspace job.resultsDir job.statistic config.missingValue rule value ∧
          members.lookup (Layout.resultFileName rule.displayName) = some (.string value)) := by
  obtain ⟨job, summary, orders, succeeds, read⟩ := read?_output_of_code accepts json succeeded
  obtain ⟨config, ruleSet, loaded, scanned, readable, covers⟩ := succeeds
  have distinct := RuleSet.rules_nodup scanned
  have shown := covers.shownNames_perm distinct readable
  let report : Report := ⟨job.statistic, summary, job.header⟩
  have keys : report.members.map Prod.fst = summary.shownNames := report.map_fst_members
  refine ⟨job, config, ruleSet.rules, report.members, orders, loaded, read, distinct,
    RuleSet.mem_rules_iff scanned, ?_, ?_, ?_, ?_, ?_⟩
  · rw [← List.length_map Prod.fst, keys, shown.length_eq, List.length_map]
  · rwa [keys]
  · rw [keys]
    exact covers.shownNames_nodup_iff distinct readable
  · intro encoded
    rw [keys, covers.shownNames_nodup_iff distinct readable]
    intro rule membership other otherMembership alike
    obtain ⟨text, same⟩ := encoded rule membership
    obtain ⟨otherText, otherSame⟩ := encoded other otherMembership
    exact Rule.displayName_injective_of_utf8 same otherSame alike
  · intro noneRepeated rule membership
    rw [keys] at noneRepeated
    obtain ⟨text, holds⟩ := readable rule membership
    have finds : Summary.Finds workspace job.resultsDir job.statistic config.missingValue rule
        ((ResultText.extractValue text job.statistic).getD config.missingValue) :=
      ⟨text, holds, rfl⟩
    have recorded := (covers.recorded rule.resultFileName _).2 ⟨rule, membership, rfl, finds⟩
    refine ⟨_, finds, ?_⟩
    rw [← rule.decodeLossy_resultFileName]
    exact Report.lookup_members noneRepeated recorded

theorem json_has_a_member_for_every_rule_neighbours :
    let arguments := [Utf8.ofString "--json", Utf8.ofString "k", Utf8.ofString "R"]
    Accepts arguments ∧ .json ∈ flags (parts arguments) ∧
      (program Summary.neighbours arguments none).code = some 0 ∧
      ∃ members,
        Json.read? (program Summary.neighbours arguments none).output =
          some (.object [("stat".toList, .string "k".toList), ("values".toList, .object members)]) ∧
        (members.map Prod.fst).Perm ["a.result".toList, "a-b.result".toList] ∧
        (members.map Prod.fst).Nodup := by
  intro arguments
  have accepts : Accepts arguments := ⟨_, rfl⟩
  have json : .json ∈ flags (parts arguments) := by decide
  have succeeded : (program Summary.neighbours arguments none).code = some 0 := rfl
  have scanned : RuleSet.scan Summary.neighbours Layout.rulesDir =
      .ok ⟨Layout.rulesDir, [⟨Utf8.ofString "a"⟩, ⟨Utf8.ofString "a-b"⟩]⟩ := rfl
  have ordered : Orders arguments ⟨"k".toList, Utf8.ofString "R", none, false, true⟩ :=
    ⟨rfl, rfl, rfl, by decide, by decide⟩
  have defaults : Config.load Summary.neighbours Path.dot = .ok .default := rfl
  obtain ⟨job, config, rules, members, orders, loaded, read, distinct, held, _, keys, _, encoded,
    _⟩ := json_has_a_member_for_every_rule accepts json succeeded
  obtain rfl := orders.unique ordered
  rw [defaults, Except.ok.injEq] at loaded
  subst loaded
  have perm : rules.Perm [⟨Utf8.ofString "a"⟩, ⟨Utf8.ofString "a-b"⟩] := by
    refine (List.perm_ext_iff_of_nodup distinct (RuleSet.rules_nodup scanned)).2 ?_
    intro rule
    rw [held]
    exact (RuleSet.mem_rules_iff scanned rule).symm
  refine ⟨accepts, json, succeeded, members, read, keys.trans (perm.map _), encoded ?_⟩
  intro rule membership
  rcases List.mem_pair.1 (perm.mem_iff.1 membership) with rfl | rfl
  · exact ⟨_, rfl⟩
  · exact ⟨_, rfl⟩

/-- Two rules whose names are not UTF-8 and are shown alike, with a result each. -/
def alike : Workspace :=
  [Edit.write (Utf8.ofString "RuleSets/r" ++ [0xFE]) [],
    .write (Utf8.ofString "RuleSets/r" ++ [0xFF]) [],
    .write (Utf8.ofString "R/r" ++ [0xFE] ++ Utf8.ofString ".result") (Utf8.ofString "score: 1"),
    .write (Utf8.ofString "R/r" ++ [0xFF] ++ Utf8.ofString ".result") (Utf8.ofString "score: 2")
    ].foldl Workspace.edited .empty

theorem json_repeats_the_key_of_alike_rules :
    let arguments := [Utf8.ofString "--json", Utf8.ofString "score", Utf8.ofString "R"]
    Accepts arguments ∧ .json ∈ flags (parts arguments) ∧
      (program alike arguments none).code = some 0 ∧
      HoldsRule alike Layout.rulesDir (Utf8.ofString "r" ++ [0xFE]) ∧
      HoldsRule alike Layout.rulesDir (Utf8.ofString "r" ++ [0xFF]) ∧
      ∃ members,
        Json.read? (program alike arguments none).output =
          some (.object
            [("stat".toList, .string "score".toList), ("values".toList, .object members)]) ∧
        members.length = 2 ∧ ¬ (members.map Prod.fst).Nodup := by
  intro arguments
  have accepts : Accepts arguments := ⟨_, rfl⟩
  have json : .json ∈ flags (parts arguments) := by decide
  have succeeded : (program alike arguments none).code = some 0 := rfl
  have scanned : RuleSet.scan alike Layout.rulesDir =
      .ok ⟨Layout.rulesDir, [⟨Utf8.ofString "r" ++ [0xFE]⟩, ⟨Utf8.ofString "r" ++ [0xFF]⟩]⟩ := rfl
  have blank : Json.skipSpaces ['\n'] = [] := rfl
  let summary : Summary :=
    ⟨[(Utf8.ofString "r" ++ [0xFE] ++ Utf8.ofString ".result", "1".toList),
      (Utf8.ofString "r" ++ [0xFF] ++ Utf8.ofString ".result", "2".toList)], by decide⟩
  let report : Report := ⟨"score".toList, summary, false⟩
  have printed : (program alike arguments none).output = report.toJson ++ ['\n'] := rfl
  refine ⟨accepts, json, succeeded, ?_, ?_, report.members, ?_, rfl, ?_⟩
  · exact (RuleSet.mem_rules_iff scanned ⟨_⟩).1 (by simp)
  · exact (RuleSet.mem_rules_iff scanned ⟨_⟩).1 (by simp)
  · rw [printed, Report.read?_toJson report blank]
    rfl
  · decide

end Run

end RuleDigest

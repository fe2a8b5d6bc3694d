import RuleDigest.Proofs.RuleSet.Listing
import RuleDigest.Proofs.Workspace.Text
import RuleDigest.Summary

/-!
# Collecting is exact

The summary of a set of rules records, for every rule and for nothing else, what
the rule's result file says.  There is no summary as soon as one result file
holds no text, and then the first such rule is to blame.

The invariant of the loop is that the summary so far records what is to be recorded
for the rules so far.
-/

namespace RuleDigest

theorem Rule.resultFileName_injective {first second : Rule}
    (same : first.resultFileName = second.resultFileName) : first = second := by
  cases first
  cases second
  rw [Rule.mk.injEq]
  exact List.append_cancel_right same

theorem Rule.resultFileNames_nodup {rules : List Rule} (distinct : rules.Nodup) :
    (rules.map Rule.resultFileName).Nodup :=
  List.pairwise_map.2 (distinct.imp fun differ same => differ (resultFileName_injective same))

namespace ResultText

variable {workspace : Workspace} {path : Bytes} {key : Text}

theorem readValue_of_holdsText {text : Text} (holds : workspace.HoldsText path text) :
    readValue workspace path key = .ok (extractValue text key) := by
  rw [readValue, holds.readText_eq]

theorem readValue_of_lacksText {fault : ReadFault} (lacks : workspace.LacksText path fault) :
    readValue workspace path key = .error ⟨path, fault⟩ := by
  rw [readValue, lacks.readText_eq]

end ResultText

namespace Summary

open Workspace

/-- What is to be recorded for a rule: the value in its result file, or another one where
that file lacks the key. -/
def Finds (workspace : Workspace) (resultsDir : Bytes) (key missingValue : Text) (rule : Rule)
    (value : Text) : Prop :=
  ∃ text, workspace.HoldsText (rule.resultPath resultsDir) text ∧
    value = (ResultText.extractValue text key).getD missingValue

/-- A summary has one entry for each of the rules, in ascending order, and no other. -/
structure Covers (workspace : Workspace) (resultsDir : Bytes) (key missingValue : Text)
    (rules : List Rule) (summary : Summary) : Prop where
  size : summary.size = rules.length
  ascending : (summary.entries.map Prod.fst).Pairwise (· < ·)
  recorded : ∀ name value, summary.get? name = some value ↔
    ∃ rule ∈ rules, name = rule.name ++ Utf8.ofString ".result" ∧
      Finds workspace resultsDir key missingValue rule value

/-- A summary records what is to be recorded for rules, and nothing else. -/
def Records (workspace : Workspace) (resultsDir : Bytes) (key missingValue : Text)
    (rules : List Rule) (summary : Summary) : Prop :=
  ∀ name value, summary.get? name = some value ↔
    ∃ rule ∈ rules, name = rule.resultFileName ∧
      Finds workspace resultsDir key missingValue rule value

/-- An error is about a rule whose result file holds no text, and says why. -/
def Blames (workspace : Workspace) (resultsDir : Bytes) (error : ResultError) (rule : Rule) :
    Prop :=
  error.path = rule.resultPath resultsDir ∧
    workspace.LacksText (rule.resultPath resultsDir) error.fault

/-- The first of the rules whose result file holds no text is to blame. -/
def StopsAt (workspace : Workspace) (resultsDir : Bytes) (rules : List Rule)
    (error : ResultError) : Prop :=
  ∃ before rule after, rules = before ++ rule :: after ∧
    (∀ earlier ∈ before, ∃ text, workspace.HoldsText (earlier.resultPath resultsDir) text) ∧
    Blames workspace resultsDir error rule

variable {workspace : Workspace} {resultsDir : Bytes} {key missingValue : Text}

theorem Finds.unique {rule : Rule} {first second : Text}
    (firstFound : Finds workspace resultsDir key missingValue rule first)
    (secondFound : Finds workspace resultsDir key missingValue rule second) : first = second := by
  obtain ⟨firstText, firstHeld, rfl⟩ := firstFound
  obtain ⟨secondText, secondHeld, rfl⟩ := secondFound
  rw [firstHeld.unique secondHeld]

theorem Blames.not_holdsText {error : ResultError} {rule : Rule}
    (blames : Blames workspace resultsDir error rule) (text : Text) :
    ¬ workspace.HoldsText (rule.resultPath resultsDir) text :=
  blames.2.not_holdsText text

theorem Blames.unique {rule : Rule} {first second : ResultError}
    (firstBlames : Blames workspace resultsDir first rule)
    (secondBlames : Blames workspace resultsDir second rule) : first = second := by
  obtain ⟨firstPath, firstFault⟩ := first
  obtain ⟨secondPath, secondFault⟩ := second
  obtain ⟨rfl, firstLacks⟩ := firstBlames
  obtain ⟨rfl, secondLacks⟩ := secondBlames
  rw [ResultError.mk.injEq]
  exact ⟨rfl, firstLacks.unique secondLacks⟩

theorem StopsAt.exists_blamed {rules : List Rule} {error : ResultError}
    (stops : StopsAt workspace resultsDir rules error) :
    ∃ rule ∈ rules, Blames workspace resultsDir error rule := by
  obtain ⟨before, rule, after, rfl, _, blames⟩ := stops
  exact ⟨rule, by simp, blames⟩

/-! ## The loop -/

theorem collectInto_of_holdsText {rule : Rule} {text : Text}
    (holds : workspace.HoldsText (rule.resultPath resultsDir) text) (summary : Summary)
    (rest : List Rule) :
    collectInto workspace resultsDir key missingValue summary (rule :: rest) =
      collectInto workspace resultsDir key missingValue
        (summary.insert rule.resultFileName
          ((ResultText.extractValue text key).getD missingValue)) rest := by
  rw [collectInto, ResultText.readValue_of_holdsText holds]

theorem collectInto_of_lacksText {rule : Rule} {fault : ReadFault}
    (lacks : workspace.LacksText (rule.resultPath resultsDir) fault) (summary : Summary)
    (rest : List Rule) :
    collectInto workspace resultsDir key missingValue summary (rule :: rest) =
      .error ⟨rule.resultPath resultsDir, fault⟩ := by
  rw [collectInto, ResultText.readValue_of_lacksText lacks]

theorem collectInto_ok_of_holdsText {rules : List Rule}
    (readable : ∀ rule ∈ rules, ∃ text, workspace.HoldsText (rule.resultPath resultsDir) text)
    (summary : Summary) :
    ∃ result, collectInto workspace resultsDir key missingValue summary rules = .ok result := by
  induction rules generalizing summary with
  | nil => exact ⟨summary, rfl⟩
  | cons rule rest inductionHypothesis =>
      obtain ⟨⟨text, holds⟩, restReadable⟩ := List.forall_mem_cons.1 readable
      rw [collectInto_of_holdsText holds]
      exact inductionHypothesis restReadable _

theorem holdsText_of_collectInto_ok {rules : List Rule} {summary result : Summary}
    (collected : collectInto workspace resultsDir key missingValue summary rules = .ok result) :
    ∀ rule ∈ rules, ∃ text, workspace.HoldsText (rule.resultPath resultsDir) text := by
  induction rules generalizing summary with
  | nil => exact List.forall_mem_nil _
  | cons rule rest inductionHypothesis =>
      rcases holdsText_or_lacksText workspace (rule.resultPath resultsDir) with
        ⟨text, holds⟩ | ⟨fault, lacks⟩
      · rw [collectInto_of_holdsText holds] at collected
        exact List.forall_mem_cons.2 ⟨⟨text, holds⟩, inductionHypothesis collected⟩
      · rw [collectInto_of_lacksText lacks] at collected
        cases collected

theorem Records.empty : Records workspace resultsDir key missingValue [] empty := by
  intro name value
  simp

/-- Recording what is found for one more rule keeps the invariant, also when the rule has
come before. -/
theorem Records.insert {done : List Rule} {summary : Summary} {rule : Rule} {found : Text}
    (records : Records workspace resultsDir key missingValue done summary)
    (finds : Finds workspace resultsDir key missingValue rule found) :
    Records workspace resultsDir key missingValue (done ++ [rule])
      (summary.insert rule.resultFileName found) := by
  intro name value
  rw [get?_insert]
  by_cases same : name = rule.resultFileName
  · rw [if_pos same, Option.some_inj]
    constructor
    · rintro rfl
      exact ⟨rule, by simp, same, finds⟩
    · rintro ⟨other, _, otherSame, otherFinds⟩
      obtain rfl := Rule.resultFileName_injective (same.symm.trans otherSame)
      exact finds.unique otherFinds
  · rw [if_neg same, records name value]
    constructor
    · rintro ⟨other, membership, rest⟩
      exact ⟨other, List.mem_append_left _ membership, rest⟩
    · rintro ⟨other, membership, otherSame, otherFinds⟩
      rcases List.mem_append.1 membership with before | last
      · exact ⟨other, before, otherSame, otherFinds⟩
      · obtain rfl := List.mem_singleton.1 last
        exact absurd otherSame same

theorem Records.collectInto {done rules : List Rule} {summary result : Summary}
    (records : Records workspace resultsDir key missingValue done summary)
    (collected : collectInto workspace resultsDir key missingValue summary rules = .ok result) :
    Records workspace resultsDir key missingValue (done ++ rules) result := by
  induction rules generalizing done summary with
  | nil =>
      cases collected
      rwa [List.append_nil]
  | cons rule rest inductionHypothesis =>
      obtain ⟨text, holds⟩ := holdsText_of_collectInto_ok collected rule List.mem_cons_self
      rw [collectInto_of_holdsText holds] at collected
      have continued := inductionHypothesis (records.insert ⟨text, holds, rfl⟩) collected
      rwa [List.append_assoc, List.singleton_append] at continued

theorem stopsAt_of_collectInto_error {rules : List Rule} {summary : Summary} {error : ResultError}
    (failed : collectInto workspace resultsDir key missingValue summary rules = .error error) :
    StopsAt workspace resultsDir rules error := by
  induction rules generalizing summary with
  | nil => cases failed
  | cons rule rest inductionHypothesis =>
      rcases holdsText_or_lacksText workspace (rule.resultPath resultsDir) with
        ⟨text, holds⟩ | ⟨fault, lacks⟩
      · rw [collectInto_of_holdsText holds] at failed
        obtain ⟨before, culprit, after, split, readable, blamed⟩ := inductionHypothesis failed
        refine ⟨rule :: before, culprit, after, ?_, ?_, blamed⟩
        · rw [split, List.cons_append]
        · exact List.forall_mem_cons.2 ⟨⟨text, holds⟩, readable⟩
      · rw [collectInto_of_lacksText lacks, Except.error.injEq] at failed
        subst failed
        exact ⟨[], rule, rest, rfl, List.forall_mem_nil _, rfl, lacks⟩

theorem collectInto_of_stopsAt {rules : List Rule} {error : ResultError}
    (stops : StopsAt workspace resultsDir rules error) (summary : Summary) :
    collectInto workspace resultsDir key missingValue summary rules = .error error := by
  obtain ⟨before, rule, after, rfl, readable, path, lacks⟩ := stops
  induction before generalizing summary with
  | nil => rw [List.nil_append, collectInto_of_lacksText lacks, ← path]
  | cons first rest inductionHypothesis =>
      obtain ⟨⟨text, holds⟩, restReadable⟩ := List.forall_mem_cons.1 readable
      rw [List.cons_append, collectInto_of_holdsText holds]
      exact inductionHypothesis _ restReadable

/-! ## The whole -/

theorem collect_ok_iff {rules : List Rule} :
    (∃ summary, collect workspace rules resultsDir key missingValue = .ok summary) ↔
      ∀ rule ∈ rules, ∃ text, workspace.HoldsText (rule.resultPath resultsDir) text := by
  constructor
  · rintro ⟨summary, collected⟩
    exact holdsText_of_collectInto_ok collected
  · intro readable
    exact collectInto_ok_of_holdsText readable _

theorem records_of_collect {rules : List Rule} {summary : Summary}
    (collected : collect workspace rules resultsDir key missingValue = .ok summary) :
    Records workspace resultsDir key missingValue rules summary :=
  Records.empty.collectInto collected

theorem names_ascending (summary : Summary) :
    (summary.entries.map Prod.fst).Pairwise (· < ·) :=
  List.pairwise_map.2 summary.ascending

theorem names_nodup (summary : Summary) : (summary.entries.map Prod.fst).Nodup :=
  summary.names_ascending.imp (by
    intro first second before same
    subst same
    exact List.lt_irrefl first before)

theorem get?_eq_some_iff_mem {summary : Summary} {name : Bytes} {value : Text} :
    summary.get? name = some value ↔ (name, value) ∈ summary.entries :=
  lookup_eq_some_iff_mem summary.names_nodup

theorem mem_names_iff {summary : Summary} {name : Bytes} :
    name ∈ summary.entries.map Prod.fst ↔ ∃ value, summary.get? name = some value := by
  simp [get?_eq_some_iff_mem]

theorem exists_finds_of_mem_values {rules : List Rule} {summary : Summary}
    (collected : collect workspace rules resultsDir key missingValue = .ok summary) {value : Text}
    (membership : value ∈ summary.values) :
    ∃ rule ∈ rules, Finds workspace resultsDir key missingValue rule value := by
  obtain ⟨entry, recorded, rfl⟩ := List.mem_map.1 membership
  obtain ⟨rule, isRule, _, finds⟩ :=
    (records_of_collect collected entry.1 entry.2).1 (get?_eq_some_iff_mem.2 recorded)
  exact ⟨rule, isRule, finds⟩

/-- Different rules are recorded under different names, and no other names are. -/
theorem Records.names_perm {rules : List Rule} {summary : Summary}
    (records : Records workspace resultsDir key missingValue rules summary)
    (distinct : rules.Nodup)
    (readable : ∀ rule ∈ rules, ∃ text, workspace.HoldsText (rule.resultPath resultsDir) text) :
    (summary.entries.map Prod.fst).Perm (rules.map Rule.resultFileName) := by
  refine (List.perm_ext_iff_of_nodup summary.names_nodup
    (Rule.resultFileNames_nodup distinct)).2 fun name => ?_
  rw [mem_names_iff, List.mem_map]
  constructor
  · rintro ⟨value, recorded⟩
    obtain ⟨rule, membership, same, _⟩ := (records name value).1 recorded
    exact ⟨rule, membership, same.symm⟩
  · rintro ⟨rule, membership, same⟩
    obtain ⟨text, holds⟩ := readable rule membership
    exact ⟨_, (records name _).2 ⟨rule, membership, same.symm, text, holds, rfl⟩⟩

theorem covers_of_collect {rules : List Rule} {summary : Summary} (distinct : rules.Nodup)
    (collected : collect workspace rules resultsDir key missingValue = .ok summary) :
    Covers workspace resultsDir key missingValue rules summary where
  size := by
    have readable := holdsText_of_collectInto_ok collected
    have same := ((records_of_collect collected).names_perm distinct readable).length_eq
    rwa [List.length_map, List.length_map] at same
  ascending := summary.names_ascending
  recorded := records_of_collect collected

/-- A statistic of the rules of a scan is collected exactly when every result file holds a
text.  Then the summary covers the rules.  Otherwise the first rule whose result file
holds none is to blame. -/
theorem collect_exact {root : Bytes} {ruleSet : RuleSet}
    (scanned : RuleSet.scan workspace root = .ok ruleSet)
    (resultsDir : Bytes) (key missingValue : Text) :
    ((∃ summary, collect workspace ruleSet.rules resultsDir key missingValue = .ok summary) ↔
        ∀ rule ∈ ruleSet.rules, ∃ text,
          workspace.read (rule.resultPath resultsDir) = .ok (Utf8.encode text)) ∧
      (∀ summary, collect workspace ruleSet.rules resultsDir key missingValue = .ok summary →
        Covers workspace resultsDir key missingValue ruleSet.rules summary) ∧
      ∀ error, collect workspace ruleSet.rules resultsDir key missingValue = .error error →
        StopsAt workspace resultsDir ruleSet.rules error := by
  refine ⟨collect_ok_iff, ?_, ?_⟩
  · intro summary collected
    exact covers_of_collect (RuleSet.rules_nodup scanned) collected
  · intro error failed
    exact stopsAt_of_collectInto_error failed

/-- Two rules whose result files stand in the other order than they do. -/
def neighbours : Workspace :=
  .ofFiles [("RuleSets/a", ""), ("RuleSets/a-b", ""), ("R/a.result", "k: 1"), ("R/a-b.result", "")]

theorem collect_exact_neighbours :
    RuleSet.scan neighbours Layout.rulesDir =
        .ok ⟨Layout.rulesDir, [⟨Utf8.ofString "a"⟩, ⟨Utf8.ofString "a-b"⟩]⟩ ∧
      ∃ summary,
        collect neighbours [⟨Utf8.ofString "a"⟩, ⟨Utf8.ofString "a-b"⟩] (Utf8.ofString "R")
            "k".toList Layout.missingValue = .ok summary ∧
          summary.values = ["none".toList, "1".toList] ∧
          Covers neighbours (Utf8.ofString "R") "k".toList Layout.missingValue
            [⟨Utf8.ofString "a"⟩, ⟨Utf8.ofString "a-b"⟩] summary := by
  have scanned : RuleSet.scan neighbours Layout.rulesDir =
      .ok ⟨Layout.rulesDir, [⟨Utf8.ofString "a"⟩, ⟨Utf8.ofString "a-b"⟩]⟩ := rfl
  refine ⟨scanned, _, rfl, rfl, ?_⟩
  exact (collect_exact scanned (Utf8.ofString "R") "k".toList Layout.missingValue).2.1 _ rfl

end Summary

end RuleDigest

import RuleDigest.Proofs.ResultText.Records
import RuleDigest.Proofs.Summary.Collection

/-!
# Keys that can be found

A line records a value for a key only if the key and a colon are one of its tokens.  So a text
can hold a value for exactly the keys without blanks, and a collection under any other key finds
nothing in any result file.
-/

namespace RuleDigest

namespace ResultText

variable {text line key value : Text}

/-- The key of a record is part of a token. -/
theorem Records.not_blank (records : Records key line value) :
    ∀ char ∈ key, isBlank char = false := by
  obtain ⟨others, has⟩ := records
  have marker : IsToken (key ++ [':']) := has.isToken _ List.mem_cons_self
  intro char membership
  exact marker.2 char (List.mem_append_left _ membership)

theorem not_blank_of_extractValue (found : extractValue text key = some value) :
    ∀ char ∈ key, isBlank char = false := by
  obtain ⟨before, line, after, _, records, _⟩ := isValue_some_iff.2 found
  exact records.not_blank

theorem extractValue_eq_none_of_blank (blank : ∃ char ∈ key, isBlank char = true) (text : Text) :
    extractValue text key = none := by
  obtain ⟨char, membership, isBlank⟩ := blank
  rw [Option.eq_none_iff_forall_ne_some]
  intro value found
  have solid := not_blank_of_extractValue found char membership
  rw [isBlank] at solid
  cases solid

/-- A record with nothing around its key and its value but what it needs. -/
def Record.bare (key value : Text) : Record :=
  ⟨[], key, [' '], value, [], .lineFeed⟩

theorem Record.bare_wellFormed (solid : ∀ char ∈ key, isBlank char = false)
    (isToken : IsToken value) : (bare key value).WellFormed where
  indent := List.forall_mem_nil _
  key := solid
  gap := ⟨List.cons_ne_nil _ _, List.forall_mem_singleton.2 (by decide)⟩
  value := isToken
  trailer := ⟨(by decide : EndsToken []), List.forall_mem_nil _⟩

/-- What is found in any text at all: tokens, for keys without blanks. -/
theorem exists_extractValue_iff :
    (∃ text, extractValue text key = some value) ↔
      (∀ char ∈ key, isBlank char = false) ∧ IsToken value := by
  constructor
  · rintro ⟨text, found⟩
    exact ⟨not_blank_of_extractValue found, isToken_of_extractValue found⟩
  · rintro ⟨solid, isToken⟩
    refine ⟨(Record.bare key value).line, ?_⟩
    rw [Record.extractValue_line (Record.bare_wellFormed solid isToken)]
    exact if_pos rfl

end ResultText

namespace Summary

open ResultText (extractValue)

variable {workspace : Workspace} {resultsDir : Bytes} {key missingValue value : Text}
  {rules : List Rule} {rule : Rule} {summary : Summary}

theorem finds_iff_of_blank (blank : ∃ char ∈ key, isBlank char = true) :
    Finds workspace resultsDir key missingValue rule value ↔
      (∃ text, workspace.HoldsText (rule.resultPath resultsDir) text) ∧ value = missingValue := by
  simp only [Finds, ResultText.extractValue_eq_none_of_blank blank, Option.getD_none,
    exists_and_right]

/-- Exactly the keys without blanks can be found.  Under a key with a blank, whichever it is and
wherever it stands, a collection records for every rule the value for what is missing, whatever
the result files hold. -/
theorem key_is_findable_iff (key : Text) :
    ((∃ text value, extractValue text key = some value) ↔
        ∀ char ∈ key, isBlank char = false) ∧
      ((∃ char ∈ key, isBlank char = true) →
        ∀ workspace rules resultsDir missingValue summary,
          collect workspace rules resultsDir key missingValue = .ok summary →
          (∀ rule ∈ rules, summary.get? rule.resultFileName = some missingValue) ∧
            summary.values = List.replicate summary.size missingValue) := by
  constructor
  · constructor
    · rintro ⟨text, value, found⟩
      exact ResultText.not_blank_of_extractValue found
    · intro solid
      have isToken : ResultText.IsToken ['1'] := by decide
      obtain ⟨text, found⟩ := ResultText.exists_extractValue_iff.2 ⟨solid, isToken⟩
      exact ⟨text, _, found⟩
  · intro blank workspace rules resultsDir missingValue summary collected
    constructor
    · intro rule membership
      have readable := holdsText_of_collectInto_ok collected rule membership
      apply (records_of_collect collected _ _).2
      exact ⟨rule, membership, rfl, (finds_iff_of_blank blank).2 ⟨readable, rfl⟩⟩
    · apply List.eq_replicate_iff.2
      refine ⟨List.length_map _, ?_⟩
      intro value membership
      obtain ⟨rule, _, finds⟩ := exists_finds_of_mem_values collected membership
      exact ((finds_iff_of_blank blank).1 finds).2

/-- Result files with all that could be taken for a record of a key with a blank. -/
def spaced : Workspace :=
  .ofFiles
    [("R/a.result", "a\u0085b: 1\n a\u00A0b:\t2\na b: 3\nb: 4\n"),
      ("R/c.result", "\u2028b: 5\r\na\nb: 6\rab : 7\n")]

theorem key_is_findable_iff_spaced :
    let rules : List Rule := [⟨Utf8.ofString "c"⟩, ⟨Utf8.ofString "a"⟩]
    (∃ text value, extractValue text [] = some value) ∧
      (∃ text value, extractValue text "a:b:".toList = some value) ∧
      ∀ key ∈ ["a\u0085b".toList, "a\u00A0b".toList, "\u2028b".toList, "a\nb".toList, "ab ".toList],
        (∃ char ∈ key, isBlank char = true) ∧
          (¬ ∃ text value, extractValue text key = some value) ∧
          ∃ summary, collect spaced rules (Utf8.ofString "R") key "none".toList = .ok summary ∧
            summary.values = ["none".toList, "none".toList] := by
  intro rules
  have notFound {key : Text} {char : Char} (inside : char ∈ key) (blank : isBlank char = true)
      (collected : ∃ summary,
        collect spaced rules (Utf8.ofString "R") key "none".toList = .ok summary ∧
          summary.size = 2) :
      (∃ char ∈ key, isBlank char = true) ∧
        (¬ ∃ text value, extractValue text key = some value) ∧
        ∃ summary, collect spaced rules (Utf8.ofString "R") key "none".toList = .ok summary ∧
          summary.values = ["none".toList, "none".toList] := by
    have hasBlank : ∃ char ∈ key, isBlank char = true := ⟨char, inside, blank⟩
    obtain ⟨summary, collected, two⟩ := collected
    obtain ⟨findable_iff, onlyMissing⟩ := key_is_findable_iff key
    refine ⟨hasBlank, ?_, summary, collected, ?_⟩
    · intro found
      have solid := findable_iff.1 found char inside
      rw [blank] at solid
      cases solid
    · have values := (onlyMissing hasBlank _ _ _ _ _ collected).2
      rwa [two] at values
  refine ⟨(key_is_findable_iff _).1.2 (List.forall_mem_nil _), ?_, ?_⟩
  · apply (key_is_findable_iff _).1.2
    have solid : ("a:b:".toList.all fun char => !isBlank char) = true := by decide
    intro char membership
    simpa using List.all_eq_true.1 solid char membership
  · intro key membership
    simp only [List.mem_cons, List.not_mem_nil, or_false] at membership
    rcases membership with rfl | rfl | rfl | rfl | rfl
    · exact notFound (by decide : '\u0085' ∈ _) rfl ⟨_, rfl, rfl⟩
    · exact notFound (by decide : '\u00A0' ∈ _) rfl ⟨_, rfl, rfl⟩
    · exact notFound (by decide : '\u2028' ∈ _) rfl ⟨_, rfl, rfl⟩
    · exact notFound (by decide : '\n' ∈ _) rfl ⟨_, rfl, rfl⟩
    · exact notFound (by decide : ' ' ∈ _) rfl ⟨_, rfl, rfl⟩

end Summary

end RuleDigest

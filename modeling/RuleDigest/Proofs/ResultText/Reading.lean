import RuleDigest.Proofs.ResultText.Lines
import RuleDigest.Proofs.ResultText.Tokens

/-!
# The reader and the format agree

Looking a key up finds the value that the format says a text holds, for every
text and every key.
-/

namespace RuleDigest.ResultText

theorem foldl_or_eq {Item Value : Type} (taken? : Item → Option Value) (items : List Item)
    (found : Option Value) :
    items.foldl (fun found item => (taken? item).or found) found =
      (items.reverse.findSome? taken?).or found := by
  induction items generalizing found with
  | nil => rfl
  | cons item rest inductionHypothesis =>
      rw [List.foldl_cons, inductionHypothesis, List.reverse_cons, List.findSome?_append,
        List.findSome?_singleton, Option.or_assoc]

theorem recorded?_nil (key : Text) : recorded? key [] = none := rfl

/-- The value found is the one recorded last among the lines that make up the text. -/
theorem Cuts.extractValue_eq {parts : List Text} {between : List Terminator} {text : Text}
    (cuts : Cuts parts between text) (key : Text) :
    extractValue text key = parts.reverse.findSome? (recorded? key) := by
  have same := cuts.filterMap_pieces (recorded?_nil key)
  rw [extractValue, foldl_or_eq, Option.or_none, ← List.getLast?_filterMap, same,
    List.getLast?_filterMap]

theorem extractValue_eq_findSome? (text key : Text) :
    extractValue text key = (lines text).reverse.findSome? (recorded? key) :=
  (cuts_lines text).extractValue_eq key

theorem isValue_some_iff {text key value : Text} :
    IsValue text key (some value) ↔ extractValue text key = some value := by
  rw [extractValue_eq_findSome?, List.findSome?_eq_some_iff, IsValue]
  constructor
  · rintro ⟨before, line, after, split, records, silent⟩
    refine ⟨after.reverse, line, before.reverse, ?_, recorded?_eq_some_iff.2 records, ?_⟩
    · rw [split]
      simp
    · intro later membership
      exact recorded?_eq_none_iff.2 (silent later (List.mem_reverse.1 membership))
  · rintro ⟨after, line, before, split, records, silent⟩
    refine ⟨before.reverse, line, after.reverse, ?_, recorded?_eq_some_iff.1 records, ?_⟩
    · rw [← List.reverse_reverse (lines text), split]
      simp
    · intro later membership
      exact recorded?_eq_none_iff.1 (silent later (List.mem_reverse.1 membership))

theorem isValue_none_iff {text key : Text} :
    IsValue text key none ↔ extractValue text key = none := by
  rw [extractValue_eq_findSome?, List.findSome?_eq_none_iff, IsValue]
  simp only [List.mem_reverse, recorded?_eq_none_iff]

theorem isToken_of_extractValue {text key value : Text}
    (found : extractValue text key = some value) : IsToken value := by
  obtain ⟨before, line, after, _, ⟨others, has⟩, _⟩ := isValue_some_iff.2 found
  exact has.isToken value (by simp)

/-- Terminators can be replaced, each by any other, without a change to what is found. -/
theorem extractValue_joinLines (text key : Text) {others : List Terminator}
    (same : others.length = (terminators text).length) :
    extractValue (joinLines (lines text) others) key = extractValue text key := by
  rw [((cuts_lines text).replaceTerminators same).extractValue_eq key,
    extractValue_eq_findSome?]

/-- The reader finds a value exactly where the format says that a text holds it, and nothing
exactly where the format says that it holds none.  The lines of the format make up the text
with its terminators between them, and what is found is the same with any others. -/
theorem extractValue_eq_iff_isValue (text key : Text) :
    (∀ value?, extractValue text key = value? ↔ IsValue text key value?) ∧
      (joinLines (lines text) (terminators text) = text ∧
        ∀ line ∈ lines text, ∀ char ∈ line, endsLine char = false) ∧
      ∀ others : List Terminator, others.length = (terminators text).length →
        extractValue (joinLines (lines text) others) key = extractValue text key := by
  refine ⟨?_, ⟨?_, ?_⟩, ?_⟩
  · intro value?
    cases value? with
    | none => exact isValue_none_iff.symm
    | some value => exact isValue_some_iff.symm
  · exact (cuts_lines text).joinLines_eq
  · intro line membership
    exact (cuts_lines text).isLine_of_mem membership
  · intro others same
    exact extractValue_joinLines text key same

/-- A carriage return and a line feed that meet become one terminator. -/
theorem extractValue_meeting_terminators :
    joinLines (lines "k: 1\n\nk: 2".toList) [.carriageReturn, .lineFeed] =
        "k: 1\r\nk: 2".toList ∧
      extractValue "k: 1\r\nk: 2".toList ['k'] = extractValue "k: 1\n\nk: 2".toList ['k'] :=
  ⟨by decide,
    (extractValue_eq_iff_isValue "k: 1\n\nk: 2".toList ['k']).2.2
      [.carriageReturn, .lineFeed] (by decide)⟩

end RuleDigest.ResultText

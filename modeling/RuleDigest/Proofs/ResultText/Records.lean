import RuleDigest.Proofs.ResultText.Appending

/-!
# Records that are written and looked up

Records that are written one after the other are read back: the value of a key is that of the
last record with this key.  A record takes up one line, whose first token is its key with a colon
and whose second is its value, whatever the key and the value look like and whatever follows.
-/

namespace RuleDigest.ResultText

theorem not_endsLine_of_not_blank {char : Char} (solid : isBlank char = false) :
    endsLine char = false := by
  rw [Bool.eq_false_iff]
  intro ends
  have either : char = '\n' ∨ char = '\r' := by simpa [endsLine] using ends
  rcases either with rfl | rfl
  · exact absurd solid (by decide)
  · exact absurd solid (by decide)

instance (char : Char) : Decidable (IsSpace char) :=
  inferInstanceAs (Decidable (_ ∧ _))

instance (text : Text) : Decidable (IsToken text) :=
  decidable_of_iff (text ≠ [] ∧ text.all fun char => !isBlank char) (by simp [IsToken])

instance (text : Text) : Decidable (EndsToken text) :=
  decidable_of_iff (text.head?.all isBlank = true) (by cases text <;> simp [EndsToken])

namespace Record

instance (record : Record) : Decidable record.WellFormed :=
  decidable_of_iff
    ((record.indent.all fun char => IsSpace char) ∧ (record.key.all fun char => !isBlank char) ∧
      (record.gap ≠ [] ∧ record.gap.all fun char => IsSpace char) ∧ IsToken record.value ∧
      EndsToken record.trailer ∧ record.trailer.all fun char => !endsLine char)
    (by
      simp only [List.all_eq_true, decide_eq_true_eq, Bool.not_eq_true']
      exact ⟨fun ⟨indent, key, gap, value, trailer⟩ => ⟨indent, key, gap, value, trailer⟩,
        fun ⟨indent, key, gap, value, trailer⟩ => ⟨indent, key, gap, value, trailer⟩⟩)

/-- The line of a record without its terminator. -/
def line (record : Record) : Text :=
  record.indent ++ record.key ++ ':' :: record.gap ++ record.value ++ record.trailer

variable {record : Record}

namespace WellFormed

theorem isLine (wellFormed : record.WellFormed) : IsLine record.line := by
  have solid {text : Text} (noBlank : ∀ char ∈ text, isBlank char = false) : IsLine text :=
    fun char membership => not_endsLine_of_not_blank (noBlank char membership)
  have spaces {text : Text} (gap : ∀ char ∈ text, IsSpace char) : IsLine text :=
    fun char membership => (gap char membership).2
  have colon : endsLine ':' = false := rfl
  intro char membership
  simp only [line, List.mem_append, List.mem_cons] at membership
  rcases membership with (((inIndent | inKey) | (rfl | inGap)) | inValue) | inTrailer
  · exact spaces wellFormed.indent char inIndent
  · exact solid wellFormed.key char inKey
  · exact colon
  · exact spaces wellFormed.gap.2 char inGap
  · exact solid wellFormed.value.2 char inValue
  · exact wellFormed.trailer.2 char inTrailer

/-- The key and its colon are one token, since there is no blank in the key. -/
theorem records (wellFormed : record.WellFormed) :
    Records record.key record.line record.value := by
  have indent : IsGap record.indent := fun char inside => (wellFormed.indent char inside).1
  have gap : IsGap record.gap := fun char inside => (wellFormed.gap.2 char inside).1
  have marker : IsToken (record.key ++ [':']) := by
    refine ⟨by simp, ?_⟩
    intro char membership
    rcases List.mem_append.1 membership with inKey | isColon
    · exact wellFormed.key char inKey
    · obtain rfl := List.mem_singleton.1 isColon
      rfl
  have apart : EndsToken (record.gap ++ record.value ++ record.trailer) := by
    obtain ⟨blank, others, isGap⟩ := List.exists_cons_of_ne_nil wellFormed.gap.1
    intro char first
    rw [isGap] at first
    obtain rfl : blank = char := by simpa using first
    exact gap blank (by simp [isGap])
  obtain ⟨others, has⟩ := exists_hasTokens record.trailer
  have rest : HasTokens (record.gap ++ record.value ++ record.trailer) (record.value :: others) :=
    .token gap wellFormed.value wellFormed.trailer.1 has
  refine ⟨others, ?_⟩
  have whole := HasTokens.token indent marker apart rest
  simpa [line] using whole

end WellFormed

theorem extractValue_line (wellFormed : record.WellFormed) (key : Text) :
    extractValue record.line key = if record.key = key then some record.value else none := by
  have alone := (Cuts.last wellFormed.isLine).extractValue_eq key
  rw [List.reverse_singleton, List.findSome?_singleton] at alone
  rw [alone]
  obtain ⟨others, has⟩ := wellFormed.records
  simp only [recorded?, hasTokens_iff.1 has, keyToken, List.append_left_inj]

end Record

/-- A record is the last one of its key. -/
def IsLast (records : List Record) (record : Record) : Prop :=
  ∃ before after, records = before ++ record :: after ∧ ∀ later ∈ after, later.key ≠ record.key

variable {records : List Record} {key : Text}

theorem isLast_cons_iff {first record : Record} {rest : List Record} :
    IsLast (first :: rest) record ↔
      IsLast rest record ∨ record = first ∧ ∀ later ∈ rest, later.key ≠ record.key := by
  constructor
  · rintro ⟨before, after, split, distinct⟩
    cases before with
    | nil =>
        cases split
        exact .inr ⟨rfl, distinct⟩
    | cons head before =>
        cases split
        exact .inl ⟨before, after, rfl, distinct⟩
  · rintro (⟨before, after, rfl, distinct⟩ | ⟨rfl, distinct⟩)
    · exact ⟨first :: before, after, rfl, distinct⟩
    · exact ⟨[], rest, rfl, distinct⟩

theorem extractValue_write_cons {record : Record} (wellFormed : record.WellFormed)
    (rest : List Record) (key : Text) :
    extractValue (write (record :: rest)) key =
      (extractValue (write rest) key).or
        (if record.key = key then some record.value else none) := by
  rw [← Record.extractValue_line wellFormed key]
  exact extractValue_append_terminator record.terminator record.line (write rest) key

theorem extractValue_write_eq_none_iff (wellFormed : ∀ record ∈ records, record.WellFormed) :
    extractValue (write records) key = none ↔ ∀ record ∈ records, record.key ≠ key := by
  induction records with
  | nil => simp [write, extractValue_nil]
  | cons record rest inductionHypothesis =>
      obtain ⟨here, later⟩ := List.forall_mem_cons.1 wellFormed
      rw [extractValue_write_cons here, Option.or_eq_none_iff, inductionHypothesis later,
        List.forall_mem_cons, and_comm]
      simp

theorem extractValue_write_eq_some_iff (wellFormed : ∀ record ∈ records, record.WellFormed)
    {value : Text} :
    extractValue (write records) key = some value ↔
      ∃ record, IsLast records record ∧ record.key = key ∧ record.value = value := by
  induction records with
  | nil => simp [write, extractValue_nil, IsLast]
  | cons first rest inductionHypothesis =>
      obtain ⟨here, later⟩ := List.forall_mem_cons.1 wellFormed
      rw [extractValue_write_cons here, Option.or_eq_some_iff, inductionHypothesis later,
        extractValue_write_eq_none_iff later]
      simp only [isLast_cons_iff, Option.ite_none_right_eq_some, Option.some_inj]
      constructor
      · rintro (⟨record, isLast, named, valued⟩ | ⟨absent, rfl, rfl⟩)
        · exact ⟨record, .inl isLast, named, valued⟩
        · exact ⟨first, .inr ⟨rfl, absent⟩, rfl, rfl⟩
      · rintro ⟨record, isLast | ⟨rfl, absent⟩, rfl, rfl⟩
        · exact .inl ⟨record, isLast, rfl, rfl⟩
        · exact .inr ⟨absent, rfl, rfl⟩

/-- Looking a key up in written records finds the value of the last record with this key, and
nothing exactly if no record has it. -/
theorem extractValue_write_iff (wellFormed : ∀ record ∈ records, record.WellFormed) (key : Text) :
    (∀ value, extractValue (write records) key = some value ↔
        ∃ record, IsLast records record ∧ record.key = key ∧ record.value = value) ∧
      (extractValue (write records) key = none ↔ ∀ record ∈ records, record.key ≠ key) :=
  ⟨fun _ => extractValue_write_eq_some_iff wellFormed, extractValue_write_eq_none_iff wellFormed⟩

/-- Records whose keys begin, end and look like one another and like what follows them. -/
def alike : List Record :=
  [⟨[], "a".toList, "\t".toList, "a:".toList, " a: 9".toList, .carriageReturn⟩,
    ⟨"\x0B\u2028".toList, [], " ".toList, ":".toList, [], .both⟩,
    ⟨[], "a:".toList, "\u00A0 ".toList, "1".toList, "\u0085ab: 7".toList, .lineFeed⟩,
    ⟨" ".toList, "ab".toList, " ".toList, "b:".toList, " : 3".toList, .both⟩]

theorem extractValue_write_iff_alike :
    (∀ record ∈ alike, record.WellFormed) ∧
      extractValue (write alike) "a".toList = some "a:".toList ∧
      extractValue (write alike) [] = some ":".toList ∧
      extractValue (write alike) "a:".toList = some "1".toList ∧
      extractValue (write alike) "b".toList = none := by
  have wellFormed : ∀ record ∈ alike, record.WellFormed := by decide
  have found (key : Text) := (extractValue_write_iff wellFormed key).1
  refine ⟨wellFormed, ?_, ?_, ?_, ?_⟩
  · exact (found _ _).2 ⟨_, ⟨[], _, rfl, by decide⟩, rfl, rfl⟩
  · exact (found _ _).2 ⟨_, ⟨[_], _, rfl, by decide⟩, rfl, rfl⟩
  · exact (found _ _).2 ⟨_, ⟨[_, _], _, rfl, by decide⟩, rfl, rfl⟩
  · exact (extractValue_write_iff wellFormed _).2.2 (by decide)

end RuleDigest.ResultText

import RuleDigest.Proofs.ResultText.Reading

/-!
# Result texts put together

What a text records is found line by line, so two texts that meet at the end of a line record
together what the second one records, and otherwise what the first one does.  A carriage return
and a line feed that meet in this way become one terminator, which leaves one empty line less.
-/

namespace RuleDigest.ResultText

/-- No line goes on from one text to the next: the first is empty or ends with the end of a line,
or the second is empty or begins with one. -/
def Parted (first second : Text) : Prop :=
  (∀ char ∈ first.getLast?, endsLine char = true) ∨ ∀ char ∈ second.head?, endsLine char = true

/-- A line that says nothing about a key: it has less than two tokens, or another first one. -/
def Silent (key line : Text) : Prop :=
  ∃ words, HasTokens line words ∧ (words.length < 2 ∨ words.head? ≠ some (key ++ [':']))

variable {first second key : Text}

theorem silent_iff {line : Text} : Silent key line ↔ recorded? key line = none := by
  simp only [Silent, hasTokens_iff, exists_eq_left', recorded?, keyToken]
  split
  next word value others found =>
    have long : ¬ others.length + 2 < 2 := by omega
    by_cases same : word = key ++ [':'] <;> simp [found, long, same]
  next short =>
    simp only [iff_true]
    cases found : tokens line with
    | nil => exact .inl (by simp)
    | cons word others =>
        cases others with
        | nil => exact .inl (by simp)
        | cons value rest => exact absurd found (short word value rest)

theorem extractValue_append_of_endsLine {char : Char} (ends : endsLine char = true)
    (first second key : Text) :
    extractValue (first ++ char :: second) key =
      (extractValue second key).or (extractValue first key) := by
  have cut : pieces (first ++ char :: second) = pieces first ++ pieces second :=
    List.splitOnP_append_cons first second ends
  have onward : extractValue second key = (pieces second).reverse.findSome? (recorded? key) := by
    rw [extractValue, foldl_or_eq, Option.or_none]
  rw [onward, extractValue, extractValue, cut, List.foldl_append, foldl_or_eq]

theorem extractValue_nil (key : Text) : extractValue [] key = none := rfl

theorem extractValue_cons_of_endsLine {char : Char} (ends : endsLine char = true)
    (text key : Text) : extractValue (char :: text) key = extractValue text key := by
  have found := extractValue_append_of_endsLine ends [] text key
  rwa [extractValue_nil, Option.or_none] at found

theorem Parted.extractValue_append (parted : Parted first second) (key : Text) :
    extractValue (first ++ second) key =
      (extractValue second key).or (extractValue first key) := by
  rcases parted with ended | begins
  · cases last : first.getLast? with
    | none =>
        obtain rfl := List.getLast?_eq_none_iff.1 last
        rw [List.nil_append, extractValue_nil, Option.or_none]
    | some char =>
        have ends := ended char last
        obtain ⟨text, rfl⟩ := List.getLast?_eq_some_iff.1 last
        have here := extractValue_append_of_endsLine ends text [] key
        rw [extractValue_nil, Option.none_or] at here
        rw [List.append_assoc, List.singleton_append, extractValue_append_of_endsLine ends, here]
  · cases second with
    | nil => rw [List.append_nil, extractValue_nil, Option.none_or]
    | cons char text =>
        have ends : endsLine char = true := begins char rfl
        rw [extractValue_append_of_endsLine ends, extractValue_cons_of_endsLine ends]

theorem Parted.append {third : Text} (parted : Parted first second)
    (direct : Parted first third) : Parted first (second ++ third) := by
  rcases parted with ended | begins
  · exact .inl ended
  · cases second with
    | nil => exact direct
    | cons char text => exact .inr begins

theorem extractValue_append_terminator (terminator : Terminator) (first second key : Text) :
    extractValue (first ++ terminator.text ++ second) key =
      (extractValue second key).or (extractValue first key) := by
  rw [List.append_assoc]
  cases terminator with
  | lineFeed => exact extractValue_append_of_endsLine rfl first second key
  | carriageReturn => exact extractValue_append_of_endsLine rfl first second key
  | both =>
      change extractValue (first ++ '\r' :: '\n' :: second) key = _
      rw [extractValue_append_of_endsLine rfl, extractValue_cons_of_endsLine rfl]

theorem extractValue_eq_none_of_silent {text : Text}
    (silent : ∀ line ∈ lines text, Silent key line) : extractValue text key = none := by
  rw [extractValue_eq_findSome?, List.findSome?_eq_none_iff]
  intro line membership
  exact silent_iff.1 (silent line (List.mem_reverse.1 membership))

/-- Texts that are put together, with a terminator between them or at the end of a line, record
what the second one records, and what the first one does where the second records nothing.  So a
value that was found is at most replaced by a later one.  Lines that say nothing about a key can
be put between two lines and taken away again without a change to what is found. -/
theorem extractValue_append_lines (first second key : Text) :
    (∀ terminator : Terminator, extractValue (first ++ terminator.text ++ second) key =
        (extractValue second key).or (extractValue first key)) ∧
      (Parted first second → extractValue (first ++ second) key =
        (extractValue second key).or (extractValue first key)) ∧
      (Parted first second → ∀ value, extractValue first key = some value →
        ∃ last, extractValue (first ++ second) key = some last ∧
          (last = value ∨ extractValue second key = some last)) ∧
      ∀ inserted, Parted first inserted → Parted inserted second → Parted first second →
        (∀ line ∈ lines inserted, Silent key line) →
        extractValue (first ++ inserted ++ second) key = extractValue (first ++ second) key := by
  refine ⟨?_, ?_, ?_, ?_⟩
  · intro terminator
    exact extractValue_append_terminator terminator first second key
  · intro parted
    exact parted.extractValue_append key
  · intro parted value found
    rw [parted.extractValue_append, found]
    cases extractValue second key with
    | none => exact ⟨value, rfl, .inl rfl⟩
    | some later => exact ⟨later, rfl, .inr rfl⟩
  · intro inserted before after direct silent
    have nothing := extractValue_eq_none_of_silent silent
    rw [direct.extractValue_append, List.append_assoc, (before.append direct).extractValue_append,
      after.extractValue_append, nothing, Option.or_none]

/-- Lines without a value and of another key, put between a carriage return and a line feed. -/
theorem extractValue_append_lines_meeting :
    let first := "k: 1\r".toList
    let inserted := "k:\nkk: 9\r".toList
    let second := "\nj: 2 k: 3".toList
    (Parted first inserted ∧ Parted inserted second ∧ Parted first second) ∧
      (∀ line ∈ lines inserted, Silent ['k'] line) ∧
      extractValue (first ++ inserted ++ second) ['k'] = extractValue (first ++ second) ['k'] ∧
      ∃ last, extractValue (first ++ second) ['k'] = some last ∧
        (last = ['1'] ∨ extractValue second ['k'] = some last) := by
  intro first inserted second
  have ended {text : Text} (last : text.getLast? = some '\r') :
      ∀ char ∈ text.getLast?, endsLine char = true := by
    rw [last]
    rintro char ⟨⟩
    rfl
  have before : Parted first inserted := .inl (ended rfl)
  have after : Parted inserted second := .inl (ended rfl)
  have direct : Parted first second := .inl (ended rfl)
  have silent : ∀ line ∈ lines inserted, Silent ['k'] line := by
    simp only [silent_iff]
    decide
  have found : extractValue first ['k'] = some ['1'] := by decide
  have ⟨_, _, kept, same⟩ := extractValue_append_lines first second ['k']
  exact ⟨⟨before, after, direct⟩, silent, same inserted before after direct silent,
    kept direct _ found⟩

end RuleDigest.ResultText

import RuleDigest.Json.Reader

/-!
# Reading what is written

The pretty form of strings and objects is read back as the value that it was
written for, and what follows it is left alone.

Inside quotes the invariant is that the reader stands between two characters
again after each escape, so a string is read character by character.  Objects are
read back once the values of their members are, one level deeper.
-/

namespace RuleDigest.Json

/-! ## Strings -/

theorem digit?_hexDigit : ∀ value < 16, digit? (hexDigit value) = some value := by
  decide

theorem stringFrom?_of_step {state next : Escape} {char : Char} {meant : Option Char}
    (inside : char ≠ '"' ∨ state ≠ .plain none) (stepped : state.step? char = some (meant, next))
    (rest : Text) :
    stringFrom? state (char :: rest) =
      (stringFrom? next rest).map fun (text, rest) => (meant.toList ++ text, rest) := by
  have noEnd : ¬ (char = '"' ∧ state = .plain none) := by
    rintro ⟨quote, plain⟩
    rcases inside with notQuote | notPlain
    · exact notQuote quote
    · exact notPlain plain
  simp only [stringFrom?, noEnd, if_false, stepped]

theorem stringFrom?_of_silent_step {state next : Escape} {char : Char}
    (inside : char ≠ '"' ∨ state ≠ .plain none) (stepped : state.step? char = some (none, next))
    (rest : Text) : stringFrom? state (char :: rest) = stringFrom? next rest := by
  rw [stringFrom?_of_step inside stepped]
  exact Option.map_id_apply

theorem stringFrom?_letter {letter meant : Char} (notCode : letter ≠ 'u')
    (known : letter? letter = some meant) (rest : Text) :
    stringFrom? (.plain none) ('\\' :: letter :: rest) =
      (stringFrom? (.plain none) rest).map fun (text, rest) => (meant :: text, rest) := by
  have opens : Escape.step? (.plain none) '\\' = some (none, .opened none) := rfl
  have closes : Escape.step? (.opened none) letter = some (some meant, .plain none) := by
    simp [Escape.step?, notCode, known]
  rw [stringFrom?_of_silent_step (.inl (by decide)) opens,
    stringFrom?_of_step (.inr (by simp)) closes]
  rfl

theorem stringFrom?_code {char : Char} (control : char.toNat < 0x20) (rest : Text) :
    stringFrom? (.plain none) ('\\' :: 'u' :: '0' :: '0' :: hexDigit (char.toNat / 16) ::
        hexDigit (char.toNat % 16) :: rest) =
      (stringFrom? (.plain none) rest).map fun (text, rest) => (char :: text, rest) := by
  have opens : Escape.step? (.plain none) '\\' = some (none, .opened none) := rfl
  have begins : Escape.step? (.opened none) 'u' = some (none, .code none 3 0) := rfl
  have first : Escape.step? (.code none 3 0) '0' = some (none, .code none 2 0) := rfl
  have second : Escape.step? (.code none 2 0) '0' = some (none, .code none 1 0) := rfl
  have third : Escape.step? (.code none 1 0) (hexDigit (char.toNat / 16)) =
      some (none, .code none 0 (char.toNat / 16)) := by
    have read := digit?_hexDigit (char.toNat / 16) (by omega)
    simp [Escape.step?, read]
  have number : char.toNat / 16 * 16 + char.toNat % 16 = char.toNat := by omega
  have fourth : Escape.step? (.code none 0 (char.toNat / 16)) (hexDigit (char.toNat % 16)) =
      some (some char, .plain none) := by
    have read := digit?_hexDigit (char.toNat % 16) (by omega)
    have notHigh : ¬ (0xD800 ≤ char.toNat ∧ char.toNat ≤ 0xDBFF) := by omega
    have notLow : ¬ (0xDC00 ≤ char.toNat ∧ char.toNat ≤ 0xDFFF) := by omega
    simp only [Escape.step?, read, unit?, number, notHigh, notLow, if_false, Char.ofNat_toNat]
  rw [stringFrom?_of_silent_step (.inl (by decide)) opens,
    stringFrom?_of_silent_step (.inr (by simp)) begins,
    stringFrom?_of_silent_step (.inr (by simp)) first,
    stringFrom?_of_silent_step (.inr (by simp)) second,
    stringFrom?_of_silent_step (.inr (by simp)) third,
    stringFrom?_of_step (.inr (by simp)) fourth]
  rfl

/-- The written form of a character is read as that character. -/
theorem stringFrom?_escape (char : Char) (rest : Text) :
    stringFrom? (.plain none) (escape char ++ rest) =
      (stringFrom? (.plain none) rest).map fun (text, rest) => (char :: text, rest) := by
  unfold escape
  split
  case h_8 notQuote notBackslash _ _ _ _ _ =>
    split
    next control => exact stringFrom?_code control rest
    next printable =>
      have stands : Escape.step? (.plain none) char = some (some char, .plain none) := by
        have notEscape : char ≠ '\\' := notBackslash
        simp [Escape.step?, notEscape, printable]
      rw [List.singleton_append, stringFrom?_of_step (.inl notQuote) stands]
      rfl
  all_goals exact stringFrom?_letter (by decide) rfl rest

theorem string?_quoted (text rest : Text) :
    string? (text.flatMap escape ++ '"' :: rest) = some (text, rest) := by
  unfold string?
  induction text with
  | nil => simp [stringFrom?]
  | cons char tail inductionHypothesis =>
      rw [List.flatMap_cons, List.append_assoc, stringFrom?_escape, inductionHypothesis]
      rfl

/-! ## Blanks -/

theorem skipSpaces_newLine (level : Nat) (rest : Text) :
    skipSpaces (newLine level ++ rest) = skipSpaces rest := by
  have indentation : ∀ count,
      skipSpaces (List.replicate count ' ' ++ rest) = skipSpaces rest := by
    intro count
    induction count with
    | zero => rfl
    | succ count inductionHypothesis => exact inductionHypothesis
  exact indentation (2 * level)

theorem skipSpaces_quote (text rest : Text) :
    skipSpaces (quote text ++ rest) = '"' :: (text.flatMap escape ++ '"' :: rest) := by
  simp [quote, skipSpaces, isSpace]

theorem value?_space (depth : Nat) (rest : Text) : value? depth (' ' :: rest) = value? depth rest := by
  have skipped : skipSpaces (' ' :: rest) = skipSpaces rest := rfl
  unfold value?
  rw [skipped]

/-! ## Values -/

/-- The pretty form of a value is read back, whatever follows it, where values may be nested
so deep. -/
def ReadsBack (depth : Nat) (json : Json) : Prop :=
  ∀ level rest, value? depth (pretty level json ++ rest) = some (json, rest)

theorem readsBack_string (depth : Nat) (text : Text) : ReadsBack depth (.string text) := by
  intro level rest
  unfold value?
  simp only [pretty, skipSpaces_quote, string?_quoted]
  rfl

section Objects

variable {depth : Nat}

/-- A member is read back, with the line break before it. -/
theorem member?_pretty {value : Json} (reads : ReadsBack depth value) (key : Text)
    (outer level : Nat) (rest : Text) :
    member? (value? depth)
        (newLine outer ++ (quote key ++ ": ".toList ++ pretty level value ++ rest)) =
      some ((key, value), rest) := by
  unfold member?
  have colon : skipSpaces (": ".toList ++ (pretty level value ++ rest)) =
      ':' :: ' ' :: (pretty level value ++ rest) := rfl
  simp only [skipSpaces_newLine, List.append_assoc, skipSpaces_quote, string?_quoted, colon,
    value?_space, reads level rest]
  rfl

theorem prettyMembers_cons {level : Nat} (key : Text) (value : Json) (second : Text × Json)
    (others : List (Text × Json)) :
    prettyMembers level ((key, value) :: second :: others) =
      quote key ++ ": ".toList ++ pretty level value ++ ',' :: newLine level ++
        prettyMembers level (second :: others) := by
  rw [prettyMembers]
  simp

/-- Members are read back one after the other, up to the brace that closes them. -/
theorem members?_pretty (level outer : Nat) (rest : Text) (first : Text × Json)
    (others : List (Text × Json)) (reads : ∀ member ∈ first :: others, ReadsBack depth member.2) :
    members? (value? depth)
        (newLine level ++ (prettyMembers level (first :: others) ++ newLine outer ++
          '\x7D' :: rest)) =
      some (first :: others, rest) := by
  induction others generalizing first with
  | nil =>
      obtain ⟨key, value⟩ := first
      have read := member?_pretty (reads (key, value) List.mem_cons_self) key level level
        (newLine outer ++ '\x7D' :: rest)
      have closed : skipSpaces (newLine outer ++ '\x7D' :: rest) = '\x7D' :: rest := by
        rw [skipSpaces_newLine]
        rfl
      rw [members?]
      simp only [prettyMembers, List.append_assoc] at read ⊢
      simp only [read, closed]
  | cons second others inductionHypothesis =>
      obtain ⟨key, value⟩ := first
      obtain ⟨readsFirst, readsOthers⟩ := List.forall_mem_cons.1 reads
      have continued := inductionHypothesis second readsOthers
      have read := member?_pretty readsFirst key level level
        (',' :: (newLine level ++ (prettyMembers level (second :: others) ++ newLine outer ++
          '\x7D' :: rest)))
      have comma (text : Text) : skipSpaces (',' :: text) = ',' :: text := rfl
      rw [members?, prettyMembers_cons]
      simp only [List.append_assoc, List.cons_append] at read continued ⊢
      simp only [read, comma, continued]
      split
      · rfl
      next notShorter =>
        exfalso
        apply notShorter
        simp only [List.length_append, List.length_cons]
        omega

theorem skipSpaces_members (level : Nat) (first : Text × Json) (others : List (Text × Json))
    (rest : Text) :
    ∃ tail, skipSpaces (newLine level ++ (prettyMembers level (first :: others) ++ rest)) =
      '"' :: tail := by
  obtain ⟨key, value⟩ := first
  rw [skipSpaces_newLine]
  cases others with
  | nil =>
      simp only [prettyMembers, List.append_assoc, skipSpaces_quote]
      exact ⟨_, rfl⟩
  | cons second others =>
      rw [prettyMembers_cons]
      simp only [List.append_assoc, skipSpaces_quote]
      exact ⟨_, rfl⟩

theorem value?_members {text tail : Text} (opened : skipSpaces text = '"' :: tail) :
    value? (depth + 1) ('\x7B' :: text) =
      (members? (value? depth) text).map fun (members, rest) => (.object members, rest) := by
  have brace : skipSpaces ('\x7B' :: text) = '\x7B' :: text := rfl
  unfold value?
  simp only [brace, opened]
  rfl

/-- An object is read back where the values of its members are, one level deeper. -/
theorem readsBack_object {members : List (Text × Json)}
    (reads : ∀ member ∈ members, ReadsBack depth member.2) :
    ReadsBack (depth + 1) (.object members) := by
  intro level rest
  cases members with
  | nil => rfl
  | cons first others =>
      have written : pretty level (.object (first :: others)) ++ rest =
          '\x7B' :: (newLine (level + 1) ++ (prettyMembers (level + 1) (first :: others) ++
            (newLine level ++ '\x7D' :: rest))) := by
        simp [pretty]
      obtain ⟨tail, opened⟩ := skipSpaces_members (level + 1) first others
        (newLine level ++ '\x7D' :: rest)
      have read := members?_pretty (level + 1) level rest first others reads
      rw [List.append_assoc] at read
      rw [written, value?_members opened, read]
      rfl

end Objects

/-- A text is that of a value when the value is read back from it and only blanks follow. -/
theorem read?_pretty {json : Json} (reads : ReadsBack depthLimit json) (level : Nat)
    {rest : Text} (blank : skipSpaces rest = []) :
    read? (pretty level json ++ rest) = some json := by
  simp [read?, reads level rest, blank]

end RuleDigest.Json

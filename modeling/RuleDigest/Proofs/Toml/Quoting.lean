import RuleDigest.Config.Writer

/-!
# Quoted texts

A text between double quotes is read as the text that it was written for, whichever
escape is chosen for each of its characters.

The reader goes over the quoted text twice.  It does not take the quote of an escape
for the closing one, because that quote comes right after a backslash.  Then it
resolves the escapes, and after each of them it stands between two characters again.
-/

namespace RuleDigest.Toml.Quoted

/-! ## The written form -/

/-- An escape for a character: a letter that stands for it, or the digits of its number. -/
inductive Escapes : Char → Text → Prop where
  | letter {char mark : Char} : letter? mark = some char → Escapes char ['\\', mark]
  | code {char mark : Char} {digits : Text} {values : List Nat} :
      codeLength? mark = some digits.length → digits.mapM (digit? 16) = some values →
      values.foldl (fun number value => number * 16 + value) 0 = char.toNat →
      Escapes char ('\\' :: mark :: digits)

def NeedsEscape (char : Char) : Prop :=
  char = '"' ∨ char = '\\' ∨ char.toNat < 0x20 ∨ char = '\x7F'

/-- What stands between double quotes for a text.  A character that needs an escape is
written as one, and every other character as itself. -/
inductive Writes : Text → Text → Prop where
  | nil : Writes [] []
  | escaped {char : Char} {escape text body : Text} :
      NeedsEscape char → Escapes char escape → Writes text body →
      Writes (char :: text) (escape ++ body)
  | plain {char : Char} {text body : Text} :
      ¬ NeedsEscape char → Writes text body → Writes (char :: text) (char :: body)

theorem digit?_eq_some_bounds {char : Char} {value : Nat} (digit : digit? 16 char = some value) :
    0x30 ≤ char.toNat ∧ char.toNat < 0x7F ∧ char ≠ '\\' := by
  have bounds : ('0' ≤ char ∧ char ≤ '9') ∨ ('a' ≤ char ∧ char ≤ 'f') ∨
      ('A' ≤ char ∧ char ≤ 'F') := by
    unfold digit? at digit
    grind
  have toNat {first last : Char} (between : first ≤ char ∧ char ≤ last) :
      first.toNat ≤ char.toNat ∧ char.toNat ≤ last.toNat := between
  have number : ('\\' : Char).toNat = 0x5C := rfl
  rcases bounds with between | between | between
  all_goals
    have ⟨low, high⟩ := toNat between
    simp only [Char.reduceToNat] at low high
    refine ⟨by omega, by omega, ?_⟩
    rintro rfl
    omega

theorem isPlain_of_large {char : Char} (large : 0x20 ≤ char.toNat) (notDelete : char ≠ '\x7F') :
    isPlain char = true := by
  have space : ' ' ≤ char := large
  simp [isPlain, space, notDelete]

/-! ## The closing quote -/

section Closing

variable {char : Char} {rest raw left : Text}

theorem line?_cons {escaped : Bool} (plain : isPlain char = true)
    (inside : char ≠ '"' ∨ escaped = true)
    (read : line? '"' true (!escaped && char == '\\') rest = some (raw, left)) :
    line? '"' true escaped (char :: rest) = some (char :: raw, left) := by
  have notClosing : ¬ (char = '"' ∧ escaped = false) := by
    rintro ⟨quote, unescaped⟩
    rcases inside with notQuote | isEscaped
    · exact notQuote quote
    · rw [unescaped] at isEscaped
      cases isEscaped
  simp only [line?, if_neg notClosing, if_pos plain, Bool.true_and, read, Option.map_some]

theorem line?_digits {digits : Text} {values : List Nat}
    (number : digits.mapM (digit? 16) = some values)
    (read : line? '"' true false rest = some (raw, left)) :
    line? '"' true false (digits ++ rest) = some (digits ++ raw, left) := by
  induction digits generalizing values with
  | nil => exact read
  | cons digit digits inductionHypothesis =>
      simp only [List.mapM_cons, Option.bind_eq_bind, Option.bind_eq_some_iff] at number
      obtain ⟨value, isDigit, others, othersRead, _⟩ := number
      obtain ⟨low, high, notBackslash⟩ := digit?_eq_some_bounds isDigit
      have notQuote : digit ≠ '"' := by
        rintro rfl
        exact absurd low (by decide)
      have notDelete : digit ≠ '\x7F' := by
        rintro rfl
        exact absurd high (by decide)
      apply line?_cons (isPlain_of_large (by omega) notDelete) (.inl notQuote)
      rw [beq_eq_false_iff_ne.2 notBackslash]
      exact inductionHypothesis othersRead

theorem isPlain_of_letter? {mark : Char} (letter : letter? mark = some char) :
    isPlain mark = true := by
  unfold letter? at letter
  split at letter
  case h_9 => cases letter
  all_goals rfl

theorem isPlain_of_codeLength? {mark : Char} {length : Nat}
    (code : codeLength? mark = some length) : isPlain mark = true := by
  unfold codeLength? at code
  split at code
  case h_4 => cases code
  all_goals rfl

theorem Escapes.line? {escape : Text} (escapes : Escapes char escape)
    (read : line? '"' true false rest = some (raw, left)) :
    Quoted.line? '"' true false (escape ++ rest) = some (escape ++ raw, left) := by
  cases escapes with
  | letter letter =>
      apply line?_cons rfl (.inl (by decide))
      apply line?_cons (isPlain_of_letter? letter) (.inr rfl)
      exact read
  | code length number _ =>
      apply line?_cons rfl (.inl (by decide))
      apply line?_cons (isPlain_of_codeLength? length) (.inr rfl)
      exact line?_digits number read

theorem Writes.line? {text body : Text} (writes : Writes text body) (rest : Text) :
    line? '"' true false (body ++ '"' :: rest) = some (body, rest) := by
  induction writes with
  | nil => rfl
  | escaped _ escapes _ inductionHypothesis =>
      rw [List.append_assoc]
      exact escapes.line? inductionHypothesis
  | @plain char text body needsNone _ inductionHypothesis =>
      simp only [NeedsEscape, not_or, Nat.not_lt] at needsNone
      obtain ⟨notQuote, notBackslash, large, notDelete⟩ := needsNone
      apply line?_cons (isPlain_of_large large notDelete) (.inl notQuote)
      rw [beq_eq_false_iff_ne.2 notBackslash]
      exact inductionHypothesis

end Closing

/-! ## The escapes -/

section Meaning

variable {char : Char} {rest text : Text}

theorem unescapeFrom_cons {state next : Escape} {meant : Option Char}
    (stepped : state.step? char = some (meant, next))
    (read : unescapeFrom next rest = some text) :
    unescapeFrom state (char :: rest) = some (meant.toList ++ text) := by
  simp only [unescapeFrom, stepped, read, Option.map_some]

theorem scalar?_toNat (char : Char) : scalar? char.toNat = some char := by
  have valid : char.toNat.isValidChar := char.valid
  rw [scalar?, if_pos valid, Char.ofNat_toNat]

/-- The digits that are still to come complete the number of the character. -/
theorem unescapeFrom_digits {digits : Text} {values : List Nat} {more number : Nat}
    (length : digits.length = more + 1) (read : digits.mapM (digit? 16) = some values)
    (whole : values.foldl (fun number value => number * 16 + value) number = char.toNat)
    (after : unescapeFrom .plain rest = some text) :
    unescapeFrom (.code more number) (digits ++ rest) = some (char :: text) := by
  induction digits generalizing values more number with
  | nil => cases length
  | cons digit digits inductionHypothesis =>
      simp only [List.mapM_cons, Option.bind_eq_bind, Option.bind_eq_some_iff, Option.pure_def,
        Option.some_inj] at read
      obtain ⟨value, isDigit, others, othersRead, rfl⟩ := read
      rw [List.foldl_cons] at whole
      cases more with
      | zero =>
          obtain rfl : digits = [] := List.eq_nil_of_length_eq_zero (Nat.succ.inj length)
          obtain rfl : others = [] := by simpa using othersRead.symm
          have stepped : Escape.step? (.code 0 number) digit = some (some char, .plain) := by
            simp only [Escape.step?, isDigit]
            rw [show number * 16 + value = char.toNat from whole, scalar?_toNat]
            simp only [Option.map_some]
          exact unescapeFrom_cons stepped after
      | succ more =>
          have stepped : Escape.step? (.code (more + 1) number) digit =
              some (none, .code more (number * 16 + value)) := by
            simp only [Escape.step?, isDigit]
          exact unescapeFrom_cons stepped
            (inductionHypothesis (Nat.succ.inj length) othersRead whole)

theorem letter?_eq_none_of_code {mark : Char} {length : Nat}
    (code : codeLength? mark = some length) : letter? mark = none ∧ 0 < length := by
  unfold codeLength? at code
  split at code
  case h_4 => cases code
  all_goals
    cases code
    exact ⟨rfl, by decide⟩

theorem Escapes.unescapeFrom {escape : Text} (escapes : Escapes char escape)
    (after : unescapeFrom .plain rest = some text) :
    Quoted.unescapeFrom .plain (escape ++ rest) = some (char :: text) := by
  have opens : Escape.step? .plain '\\' = some (none, .opened) := rfl
  cases escapes with
  | @letter mark letter =>
      have closes : Escape.step? .opened mark = some (some char, .plain) := by
        simp only [Escape.step?, letter]
      exact unescapeFrom_cons opens (unescapeFrom_cons closes after)
  | @code mark digits values length number whole =>
      obtain ⟨noLetter, positive⟩ := letter?_eq_none_of_code length
      have begins : Escape.step? .opened mark = some (none, .code (digits.length - 1) 0) := by
        simp only [Escape.step?, noLetter, length]
      apply unescapeFrom_cons opens
      apply unescapeFrom_cons begins
      exact unescapeFrom_digits (by omega) number whole after

theorem Writes.unescape? {body : Text} (writes : Writes text body) : unescape? body = some text := by
  unfold Quoted.unescape?
  induction writes with
  | nil => rfl
  | escaped _ escapes _ inductionHypothesis => exact escapes.unescapeFrom inductionHypothesis
  | @plain char text body needsNone _ inductionHypothesis =>
      have notBackslash : char ≠ '\\' := fun same => needsNone (.inr (.inl same))
      have stands : Escape.step? .plain char = some (some char, .plain) := by
        simp only [Escape.step?, if_neg notBackslash]
      exact unescapeFrom_cons stands inductionHypothesis

end Meaning

theorem Writes.readLine? {text body : Text} (writes : Writes text body) (rest : Text) :
    readLine? '"' (body ++ '"' :: rest) = some (text, rest) := by
  have closed : Quoted.line? '"' ('"' == '"') false (body ++ '"' :: rest) = some (body, rest) :=
    writes.line? rest
  simp only [Quoted.readLine?, closed, writes.unescape?, bind, Option.bind, if_true]
  rfl

/-! ## The writer -/

theorem digit?_hexDigit : ∀ value < 16, digit? 16 (hexDigit value) = some value := by
  decide

theorem not_needsEscape_of_escape {char : Char} (quoteOrBackslash : ¬ (char = '"' ∨ char = '\\'))
    (control : ¬ (char.toNat < 0x20 ∨ char = '\x7F')) : ¬ NeedsEscape char := by
  rintro (quote | backslash | others)
  · exact quoteOrBackslash (.inl quote)
  · exact quoteOrBackslash (.inr backslash)
  · exact control others

theorem escapes_control {char : Char} (control : char.toNat < 0x20 ∨ char = '\x7F') :
    Escapes char
      ['\\', 'u', '0', '0', hexDigit (char.toNat / 16), hexDigit (char.toNat % 16)] := by
  have small : char.toNat < 0x80 := by
    rcases control with below | rfl
    · omega
    · decide
  have high := digit?_hexDigit (char.toNat / 16) (by omega)
  have low := digit?_hexDigit (char.toNat % 16) (by omega)
  have zero : digit? 16 '0' = some 0 := rfl
  have read : ['0', '0', hexDigit (char.toNat / 16), hexDigit (char.toNat % 16)].mapM (digit? 16) =
      some [0, 0, char.toNat / 16, char.toNat % 16] := by
    simp [high, low, zero]
  refine .code rfl read ?_
  simp only [List.foldl_cons, List.foldl_nil]
  omega

/-- Every text can be written. -/
theorem writes_flatMap_escape (text : Text) : Writes text (text.flatMap escape) := by
  induction text with
  | nil => exact .nil
  | cons char rest inductionHypothesis =>
      rw [List.flatMap_cons, escape]
      split
      next marked =>
        refine .escaped ?_ ?_ inductionHypothesis
        · exact marked.imp_right .inl
        · rcases marked with rfl | rfl
          · exact .letter rfl
          · exact .letter rfl
      next unmarked =>
        split
        next control =>
          refine .escaped ?_ (escapes_control control) inductionHypothesis
          exact .inr (.inr control)
        next printable =>
          exact .plain (not_needsEscape_of_escape unmarked printable) inductionHypothesis

end RuleDigest.Toml.Quoted

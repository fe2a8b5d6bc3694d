import Mathlib.Data.List.TakeDrop
import RuleDigest.Toml.Document

/-!
# Readers and what follows a text

What a reader reads of a text it reads as well when a line end and more follow.  No reader of a
value goes on over the end of a line once it could have stopped there, and the values that may
run over several lines, blocks and brackets, are not read at all without the marks that close
them.
-/

namespace RuleDigest.Toml

/-- A character with which a line end begins. -/
def BreaksLine (mark : Char) : Prop :=
  mark = '\n' ∨ mark = '\r'

/-- What the reader reads of a text it also reads where the line ends behind the text. -/
def Steady {α : Type} (reader : Text → Option (α × Text)) : Prop :=
  ∀ ⦃text rest : Text⦄ ⦃value : α⦄ ⦃mark : Char⦄ (after : Text), BreaksLine mark →
    reader text = some (value, rest) →
    reader (text ++ mark :: after) = some (value, rest ++ mark :: after)

theorem Steady.map {α β : Type} {reader : Text → Option (α × Text)} (steady : Steady reader)
    (make : α → β) :
    Steady fun text => (reader text).map fun found => (make found.1, found.2) := by
  intro text rest value mark after breaks read
  obtain ⟨⟨inner, left⟩, found, same⟩ := Option.map_eq_some_iff.1 read
  cases same
  dsimp only
  rw [steady after breaks found]
  rfl

variable {text rest after : Text} {mark : Char}

section Stops

variable {inside : Char → Bool}

theorem dropWhile_append_stop (stops : inside mark = false) (text after : Text) :
    (text ++ mark :: after).dropWhile inside = text.dropWhile inside ++ mark :: after := by
  rw [List.dropWhile_append, List.dropWhile_cons_of_neg (by simp [stops])]
  split
  next none => rw [List.isEmpty_iff.1 none, List.nil_append]
  · rfl

theorem takeWhile_append_stop (stops : inside mark = false) (text after : Text) :
    (text ++ mark :: after).takeWhile inside = text.takeWhile inside := by
  rw [List.takeWhile_append, List.takeWhile_cons_of_neg (by simp [stops]), List.append_nil]
  split
  next whole => exact ((List.takeWhile_prefix inside).eq_of_length whole).symm
  · rfl

theorem span_append_stop (stops : inside mark = false) (text after : Text) :
    (text ++ mark :: after).span inside =
      ((text.span inside).1, (text.span inside).2 ++ mark :: after) := by
  rw [List.span_eq_takeWhile_dropWhile, List.span_eq_takeWhile_dropWhile,
    takeWhile_append_stop stops, dropWhile_append_stop stops]

end Stops

namespace BreaksLine

theorem not_isSpace (breaks : BreaksLine mark) : isSpace mark = false := by
  rcases breaks with rfl | rfl <;> rfl

theorem not_isPlain (breaks : BreaksLine mark) : isPlain mark = false := by
  rcases breaks with rfl | rfl <;> rfl

theorem not_isBareKeyChar (breaks : BreaksLine mark) : isBareKeyChar mark = false := by
  rcases breaks with rfl | rfl <;> rfl

theorem not_isWordChar (breaks : BreaksLine mark) : Scalar.isWordChar mark = false := by
  rcases breaks with rfl | rfl <;> rfl

theorem skipSpaces_append (breaks : BreaksLine mark) (text after : Text) :
    skipSpaces (text ++ mark :: after) = skipSpaces text ++ mark :: after :=
  dropWhile_append_stop breaks.not_isSpace text after

end BreaksLine

/-! ## Quoted texts -/

namespace Quoted

variable {quote : Char} {escapes escaped : Bool} {raw : Text}

theorem line?_append (read : line? quote escapes escaped text = some (raw, rest)) (more : Text) :
    line? quote escapes escaped (text ++ more) = some (raw, rest ++ more) := by
  induction text generalizing escaped raw rest with
  | nil => cases read
  | cons char text inductionHypothesis =>
      rw [line?] at read
      rw [List.cons_append, line?]
      split at read
      next closes =>
        cases read
        rw [if_pos closes]
      next stays =>
        split at read
        next plain =>
          obtain ⟨⟨inner, left⟩, found, same⟩ := Option.map_eq_some_iff.1 read
          cases same
          rw [if_neg stays, if_pos plain, inductionHypothesis found]
          rfl
        · cases read

theorem block?_append (isQuote : ¬ BreaksLine quote) (breaks : BreaksLine mark)
    (read : block? quote escapes escaped text = some (raw, rest)) (after : Text) :
    block? quote escapes escaped (text ++ mark :: after) = some (raw, rest ++ mark :: after) := by
  induction text generalizing escaped raw rest with
  | nil => cases read
  | cons char text inductionHypothesis =>
      have differs : mark ≠ quote := by
        rintro rfl
        exact isQuote breaks
      have sameRun : (text ++ mark :: after).takeWhile (· == quote) =
          text.takeWhile (· == quote) :=
        takeWhile_append_stop (by simpa using differs) text after
      simp only [block?] at read
      simp only [List.cons_append, block?, sameRun]
      split at read
      next closes =>
        -- The quotes that close the block all stand in the text itself.
        have within : (text.takeWhile (· == quote)).length ≤ text.length :=
          (List.takeWhile_prefix _).length_le
        cases read
        rw [if_pos closes, List.drop_append_of_le_length (by omega)]
      next stays =>
        split at read
        next goesOn =>
          obtain ⟨⟨inner, left⟩, found, same⟩ := Option.map_eq_some_iff.1 read
          cases same
          have goesOnLonger : (isPlain char || char == '\n' ||
              (char == '\r' && (text ++ mark :: after).head? == some '\n')) = true := by
            cases text with
            | nil => cases found
            | cons next others => exact goesOn
          rw [if_neg stays, if_pos goesOnLonger, inductionHypothesis found]
          rfl
        · cases read

theorem resolved_eq_some_iff {left meant : Text} :
    (if quote = '"' then (unescape? raw).bind fun meant => pure (meant, left)
      else (some raw).bind fun meant => pure (meant, left)) = some (meant, rest) ↔
      left = rest ∧ (if quote = '"' then unescape? raw else some raw) = some meant := by
  by_cases isDouble : quote = '"'
  · cases unescape? raw <;> simp [isDouble, and_comm]
  · simp [isDouble, and_comm]

theorem readLine?_eq_some_iff {meant : Text} :
    readLine? quote text = some (meant, rest) ↔
      ∃ raw, line? quote (quote == '"') false text = some (raw, rest) ∧
        (if quote = '"' then unescape? raw else some raw) = some meant := by
  simp only [readLine?, bind, Option.bind_eq_some_iff, resolved_eq_some_iff, Prod.exists]
  exact exists_congr fun raw =>
    ⟨fun ⟨_, found, same, resolved⟩ => ⟨same ▸ found, resolved⟩,
      fun ⟨found, resolved⟩ => ⟨_, found, rfl, resolved⟩⟩

theorem readBlock?_eq_some_iff {meant : Text} :
    readBlock? quote text = some (meant, rest) ↔
      ∃ raw, block? quote (quote == '"') false (dropFirstLineEnd text) = some (raw, rest) ∧
        (if quote = '"' then unescape? raw else some raw) = some meant := by
  simp only [readBlock?, bind, Option.bind_eq_some_iff, resolved_eq_some_iff, Prod.exists]
  exact exists_congr fun raw =>
    ⟨fun ⟨_, found, same, resolved⟩ => ⟨same ▸ found, resolved⟩,
      fun ⟨found, resolved⟩ => ⟨_, found, rfl, resolved⟩⟩

theorem steady_readLine? (quote : Char) : Steady (readLine? quote) := by
  intro text rest value mark after _ read
  obtain ⟨raw, found, resolved⟩ := readLine?_eq_some_iff.1 read
  exact readLine?_eq_some_iff.2 ⟨raw, line?_append found _, resolved⟩

theorem dropFirstLineEnd_append (filled : text ≠ []) (whole : text ≠ ['\r']) (more : Text) :
    dropFirstLineEnd (text ++ more) = dropFirstLineEnd text ++ more := by
  fun_cases dropFirstLineEnd text with
  | case1 | case2 => rfl
  | case3 _ notLineFeed notBoth =>
      apply dropFirstLineEnd.eq_3
      · intro rest same
        cases text with
        | nil => exact filled rfl
        | cons first others =>
            cases same
            exact notLineFeed others rfl
      · intro rest same
        cases text with
        | nil => exact filled rfl
        | cons first others =>
            cases others with
            | nil =>
                cases same
                exact whole rfl
            | cons second others =>
                cases same
                exact notBoth others rfl

theorem steady_readBlock? (isQuote : ¬ BreaksLine quote) : Steady (readBlock? quote) := by
  intro text rest value mark after breaks read
  obtain ⟨raw, found, resolved⟩ := readBlock?_eq_some_iff.1 read
  refine readBlock?_eq_some_iff.2 ⟨raw, ?_, resolved⟩
  have filled : text ≠ [] := by
    rintro rfl
    cases found
  have whole : text ≠ ['\r'] := by
    rintro rfl
    simp [dropFirstLineEnd, block?, isPlain] at found
  rw [dropFirstLineEnd_append filled whole]
  exact block?_append isQuote breaks found after

end Quoted

/-! ## Words -/

namespace Scalar

theorem takeWord_append (breaks : BreaksLine mark) (text after : Text) :
    takeWord (text ++ mark :: after) =
      ((takeWord text).1, (takeWord text).2 ++ mark :: after) := by
  have notSpace : mark ≠ ' ' := by rcases breaks with rfl | rfl <;> decide
  have notDigit : mark.isDigit = false := by rcases breaks with rfl | rfl <;> rfl
  have spans (text : Text) := span_append_stop breaks.not_isWordChar text after
  simp only [takeWord, spans]
  generalize (text.span isWordChar).1 = word, (text.span isWordChar).2 = behind
  cases behind with
  | nil => simp [notSpace]
  | cons first behind =>
      cases behind with
      | nil => by_cases isSpace : first = ' ' <;> simp [isSpace, notDigit]
      | cons second others =>
          by_cases isSpace : first = ' '
          · have spansBehind := spans (second :: others)
            rw [List.cons_append] at spansBehind
            simp only [isSpace, List.cons_append, List.tail_cons, spansBehind]
            split
            · rfl
            · rfl
          · simp [isSpace]

theorem steady_read? : Steady read? := by
  intro text rest value mark after breaks read
  have split (text : Text) : read? text = (ofWord? (takeWord text).1).map fun value =>
      (value, (takeWord text).2) := rfl
  rw [split] at read
  obtain ⟨value, isWord, same⟩ := Option.map_eq_some_iff.1 read
  cases same
  rw [split, takeWord_append breaks, isWord]
  rfl

end Scalar

/-! ## Gaps and keys -/

/-- A text that begins in another way still does when a text with another beginning follows. -/
theorem not_cons_append {first : Char} (other : ∀ more, text ≠ first :: more)
    (differs : text = [] → mark ≠ first) (more : Text) : text ++ mark :: after ≠ first :: more := by
  intro same
  cases text with
  | nil => exact differs rfl (List.cons.inj same).1
  | cons char others => exact other others (by rw [(List.cons.inj same).1])

/-- Behind a gap that something follows, more can follow. -/
theorem skipGap?_append {inComment : Bool} (skipped : skipGap? inComment text = some rest)
    (filled : rest ≠ []) (more : Text) :
    skipGap? inComment (text ++ more) = some (rest ++ more) := by
  fun_induction skipGap? inComment text with
  | case1 =>
      cases skipped
      exact absurd rfl filled
  | case2 _ text inductionHypothesis =>
      rw [List.cons_append, skipGap?, if_pos rfl, inductionHypothesis skipped]
  | case3 _ text both notLineFeed inductionHypothesis =>
      obtain ⟨others, rfl⟩ := List.head?_eq_some_iff.1 both
      rw [List.cons_append, skipGap?, if_neg notLineFeed, if_pos rfl, List.cons_append,
        List.head?_cons, if_pos rfl, ← List.cons_append, inductionHypothesis skipped]
  | case4 | case6 => cases skipped
  | case5 first text notLineFeed notReturn plain inductionHypothesis =>
      rw [List.cons_append, skipGap?, if_neg notLineFeed, if_neg notReturn, if_pos rfl,
        if_pos plain, inductionHypothesis skipped]
  | case7 _ first text notLineFeed notReturn outside space inductionHypothesis =>
      rw [List.cons_append, skipGap?, if_neg notLineFeed, if_neg notReturn, if_neg outside,
        if_pos space, inductionHypothesis skipped]
  | case8 _ text outside notLineFeed notReturn notSpace inductionHypothesis =>
      rw [List.cons_append, skipGap?, if_neg notLineFeed, if_neg notReturn, if_neg outside,
        if_neg notSpace, if_pos rfl, inductionHypothesis skipped]
  | case9 _ first text notLineFeed notReturn outside notSpace notComment =>
      rw [List.cons_append, skipGap?, if_neg notLineFeed, if_neg notReturn, if_neg outside,
        if_neg notSpace, if_neg notComment]
      cases skipped
      rfl

theorem skipGap?_append_cons {char : Char} (skipped : skipGap? false text = some (char :: rest))
    (more : Text) : skipGap? false (text ++ more) = some (char :: (rest ++ more)) :=
  skipGap?_append skipped (List.cons_ne_nil char rest) more

theorem keyPart?_quote {quote : Char} (isQuote : quote = '"' ∨ quote = '\'') (text : Text) :
    keyPart? (quote :: text) = Quoted.readLine? quote text := by
  rcases isQuote with rfl | rfl <;> rfl

theorem keyPart?_bare (unquoted : ∀ char ∈ text.head?, char ≠ '"' ∧ char ≠ '\'') :
    keyPart? text =
      if (text.span isBareKeyChar).1.isEmpty then none else some (text.span isBareKeyChar) := by
  unfold keyPart?
  split
  · exact absurd rfl (unquoted '"' rfl).1
  · exact absurd rfl (unquoted '\'' rfl).2
  · rfl

theorem steady_keyPart? : Steady keyPart? := by
  intro text rest name mark after breaks read
  cases text with
  | nil => cases read
  | cons char text =>
      by_cases isQuote : char = '"' ∨ char = '\''
      · rw [keyPart?_quote isQuote] at read
        rw [List.cons_append, keyPart?_quote isQuote]
        exact Quoted.steady_readLine? char after breaks read
      · have unquoted (others : Text) :
            ∀ first ∈ (char :: others).head?, first ≠ '"' ∧ first ≠ '\'' := by
          simpa using isQuote
        rw [keyPart?_bare (unquoted _)] at read
        rw [List.cons_append, keyPart?_bare (unquoted _), ← List.cons_append,
          span_append_stop breaks.not_isBareKeyChar]
        split at read
        · cases read
        next filled => rw [if_neg filled, Option.some.inj read]

theorem key?_of_dot {parts : Nat} {name left more : Text}
    (part : keyPart? text = some (name, left)) (dot : skipSpaces left = '.' :: more) :
    key? (parts + 1) text =
      (key? parts (skipSpaces more)).map fun found => (name :: found.1, found.2) := by
  rw [key?, part]
  dsimp only
  rw [dot]
  rfl

theorem key?_of_no_dot {parts : Nat} {name left : Text}
    (part : keyPart? text = some (name, left)) (noDot : ∀ more, skipSpaces left ≠ '.' :: more) :
    key? (parts + 1) text = some ([name], skipSpaces left) := by
  rw [key?, part]
  dsimp only
  split
  next more dot => exact absurd dot (noDot more)
  · rfl

theorem steady_key? (parts : Nat) : Steady (key? parts) := by
  induction parts with
  | zero =>
      intro text rest key mark after _ read
      cases read
  | succ parts inductionHypothesis =>
      intro text rest key mark after breaks read
      cases part : keyPart? text with
      | none =>
          rw [key?, part] at read
          cases read
      | some found =>
          obtain ⟨name, left⟩ := found
          have partLonger := steady_keyPart? after breaks part
          have skipped := breaks.skipSpaces_append left after
          by_cases dotted : ∃ more, skipSpaces left = '.' :: more
          · obtain ⟨more, dot⟩ := dotted
            rw [key?_of_dot part dot] at read
            rw [dot, List.cons_append] at skipped
            obtain ⟨⟨others, behind⟩, found, same⟩ := Option.map_eq_some_iff.1 read
            cases same
            rw [key?_of_dot partLonger skipped, breaks.skipSpaces_append,
              inductionHypothesis after breaks found]
            rfl
          · have noDot := not_exists.1 dotted
            rw [key?_of_no_dot part noDot] at read
            cases read
            have notDot : mark ≠ '.' := by rcases breaks with rfl | rfl <;> decide
            rw [key?_of_no_dot partLonger, skipped]
            rw [skipped]
            exact not_cons_append noDot fun _ => notDot

theorem steady_keyEquals? : Steady keyEquals? := by
  intro text rest key mark after breaks read
  unfold keyEquals? at read ⊢
  split at read
  next found body isKey =>
    cases read
    rw [steady_key? partLimit after breaks isKey, ← breaks.skipSpaces_append]
    rfl
  · cases read

/-! ## Values -/

theorem ne_nil_of_read {α : Type} {reader : Text → Option (α × Text)} {value : α}
    (nothing : reader [] = none) (read : reader text = some (value, rest)) : text ≠ [] := by
  rintro rfl
  rw [nothing] at read
  cases read

theorem memberEquals?_append {key : Key} (breaks : BreaksLine mark)
    (read : memberEquals? text = some (key, rest)) (filled : rest ≠ []) (after : Text) :
    memberEquals? (text ++ mark :: after) = some (key, rest ++ mark :: after) := by
  unfold memberEquals? at read ⊢
  split at read
  · cases read
  next found left isKey =>
    rw [steady_key? partLimit after breaks isKey]
    split at read
    next body equals =>
      obtain ⟨behind, skipped, same⟩ := Option.map_eq_some_iff.1 read
      cases same
      have equalsLonger := skipGap?_append equals (List.cons_ne_nil _ _) (mark :: after)
      have skippedLonger := skipGap?_append skipped filled (mark :: after)
      rw [List.cons_append] at equalsLonger
      simp only [equalsLonger, skippedLonger, Option.map_some]
    · cases read

section Items

variable {read? : Text → Option (Value × Text)} {body left : Text} {value : Value}

theorem items?_of_closing (closing : skipGap? false text = some (']' :: rest)) :
    items? read? text = some ([], rest) := by
  rw [items?, closing]
  rfl

theorem items?_of_last (opened : skipGap? false text = some body)
    (notClosed : ∀ more, body ≠ ']' :: more) (read : read? body = some (value, left))
    (closing : skipGap? false left = some (']' :: rest)) :
    items? read? text = some ([value], rest) := by
  rw [items?, opened]
  split
  next none => cases none
  next more same => exact absurd (Option.some.inj same) (notClosed more)
  next same =>
    cases same
    simp only [read, closing]

theorem items?_of_more (opened : skipGap? false text = some body)
    (notClosed : ∀ more, body ≠ ']' :: more) (read : read? body = some (value, left))
    (comma : skipGap? false left = some (',' :: rest)) (shorter : rest.length < text.length) :
    items? read? text = (items? read? rest).map fun found => (value :: found.1, found.2) := by
  rw [items?, opened]
  split
  next none => cases none
  next more same => exact absurd (Option.some.inj same) (notClosed more)
  next same =>
    cases same
    simp only [read, comma, if_pos shorter]

theorem steady_items? (steady : Steady read?) (nothing : read? [] = none) :
    Steady (items? read?) := by
  intro text rest values mark after breaks read
  fun_induction items? read? text generalizing rest values with
  | case1 => cases read
  | case2 text rest closing =>
      cases read
      exact items?_of_closing (skipGap?_append_cons closing _)
  | case3 => cases read
  | case4 text body notClosed opened value left isValue rest closing =>
      cases read
      have filled := ne_nil_of_read nothing isValue
      exact items?_of_last (skipGap?_append opened filled _)
        (not_cons_append notClosed fun empty => absurd empty filled)
        (steady after breaks isValue) (skipGap?_append_cons closing _)
  | case5 text body notClosed opened value left isValue rest comma shorter inductionHypothesis =>
      obtain ⟨⟨others, last⟩, found, same⟩ := Option.map_eq_some_iff.1 read
      cases same
      have filled := ne_nil_of_read nothing isValue
      rw [items?_of_more (skipGap?_append opened filled _)
        (not_cons_append notClosed fun empty => absurd empty filled)
        (steady after breaks isValue) (skipGap?_append_cons comma _) (by simpa using shorter),
        inductionHypothesis found]
      rfl
  | case6 | case7 => cases read

theorem members?_of_closing {entries : Entries}
    (closing : skipGap? false text = some ('\x7D' :: rest)) :
    members? read? entries text = some (entries, rest) := by
  rw [members?, closing]
  rfl

variable {entries result : Entries} {key : Key} {body assigned left : Text} {value : Value}

theorem members?_of_last (opened : skipGap? false text = some body)
    (notClosed : ∀ more, body ≠ '\x7D' :: more)
    (member : memberEquals? body = some (key, assigned))
    (read : read? assigned = some (value, left)) (fresh : entries.assign key value = some result)
    (closing : skipGap? false left = some ('\x7D' :: rest)) :
    members? read? entries text = some (result, rest) := by
  rw [members?, opened]
  split
  next none => cases none
  next more same => exact absurd (Option.some.inj same) (notClosed more)
  next same =>
    cases same
    simp only [member, read, fresh, closing]

theorem members?_of_more (opened : skipGap? false text = some body)
    (notClosed : ∀ more, body ≠ '\x7D' :: more)
    (member : memberEquals? body = some (key, assigned))
    (read : read? assigned = some (value, left)) (fresh : entries.assign key value = some result)
    (comma : skipGap? false left = some (',' :: rest)) (shorter : rest.length < text.length) :
    members? read? entries text = members? read? result rest := by
  rw [members?, opened]
  split
  next none => cases none
  next more same => exact absurd (Option.some.inj same) (notClosed more)
  next same =>
    cases same
    simp only [member, read, fresh, comma, if_pos shorter]

theorem memberEquals?_nil : memberEquals? [] = none := rfl

theorem steady_members? (steady : Steady read?) (nothing : read? [] = none) (entries : Entries) :
    Steady (members? read? entries) := by
  intro text rest result mark after breaks read
  fun_induction members? read? entries text generalizing rest result with
  | case1 => cases read
  | case2 entries text rest closing =>
      cases read
      exact members?_of_closing (skipGap?_append_cons closing _)
  | case3 | case4 => cases read
  | case5 entries text body notClosed opened key assigned member value left isValue result' rest
      closing fresh =>
      cases read
      have filled := ne_nil_of_read memberEquals?_nil member
      exact members?_of_last (skipGap?_append opened filled _)
        (not_cons_append notClosed fun empty => absurd empty filled)
        (memberEquals?_append breaks member (ne_nil_of_read nothing isValue) after)
        (steady after breaks isValue) fresh (skipGap?_append_cons closing _)
  | case6 entries text body notClosed opened key assigned member value left isValue next rest
      comma fresh shorter inductionHypothesis =>
      have filled := ne_nil_of_read memberEquals?_nil member
      rw [members?_of_more (skipGap?_append opened filled _)
        (not_cons_append notClosed fun empty => absurd empty filled)
        (memberEquals?_append breaks member (ne_nil_of_read nothing isValue) after)
        (steady after breaks isValue) fresh (skipGap?_append_cons comma _) (by simpa using shorter)]
      exact inductionHypothesis read
  | case7 | case8 => cases read

end Items

section Values

variable {depth : Nat}

theorem value?_nil : value? depth [] = none := by
  cases depth <;> rfl

theorem value?_block {quote : Char} (isQuote : quote = '"' ∨ quote = '\'') (text : Text) :
    value? depth (quote :: quote :: quote :: text) =
      (Quoted.readBlock? quote text).map fun found => (.string found.1, found.2) := by
  rcases isQuote with rfl | rfl
  · exact value?.eq_1 depth text
  · exact value?.eq_2 depth text

theorem value?_line {quote : Char} (isQuote : quote = '"' ∨ quote = '\'')
    (noBlock : ∀ more, text ≠ quote :: quote :: more) :
    value? depth (quote :: text) =
      (Quoted.readLine? quote text).map fun found => (.string found.1, found.2) := by
  rcases isQuote with rfl | rfl
  · exact value?.eq_3 depth text noBlock
  · exact value?.eq_4 depth text noBlock

theorem value?_word {char : Char} (notQuote : ¬ (char = '"' ∨ char = '\''))
    (notBracket : char ≠ '[') (notBrace : char ≠ '\x7B') (text : Text) :
    value? depth (char :: text) = Scalar.read? (char :: text) := by
  have begins {first : Char} {rest : Text} (same : char :: text = first :: rest) : char = first :=
    (List.cons.inj same).1
  apply value?.eq_9
  · exact fun rest same => notQuote (.inl (begins same))
  · exact fun rest same => notQuote (.inr (begins same))
  · exact fun rest same => notQuote (.inl (begins same))
  · exact fun rest same => notQuote (.inr (begins same))
  · exact fun rest same => notBracket (begins same)
  · exact fun rest same => notBrace (begins same)

theorem steady_value?_of_nested (array : Steady fun text => value? depth ('[' :: text))
    (inlineTable : Steady fun text => value? depth ('\x7B' :: text)) : Steady (value? depth) := by
  intro text rest value mark after breaks read
  cases text with
  | nil =>
      rw [value?_nil] at read
      cases read
  | cons char text =>
      by_cases isQuote : char = '"' ∨ char = '\''
      · have noBreak : ¬ BreaksLine char := by
          rintro (rfl | rfl)
          · exact absurd isQuote (by decide)
          · exact absurd isQuote (by decide)
        by_cases block : ∃ more, text = char :: char :: more
        · obtain ⟨more, rfl⟩ := block
          rw [value?_block isQuote] at read
          simp only [List.cons_append]
          rw [value?_block isQuote]
          exact (Quoted.steady_readBlock? noBreak).map Value.string after breaks read
        · have noBlock := not_exists.1 block
          rw [value?_line isQuote noBlock] at read
          rw [List.cons_append, value?_line isQuote]
          · exact (Quoted.steady_readLine? char).map Value.string after breaks read
          · intro more same
            cases text with
            | nil =>
                cases same
                exact noBreak breaks
            | cons first others =>
                cases others with
                | nil =>
                    cases same
                    exact noBreak breaks
                | cons second others =>
                    cases same
                    exact noBlock others rfl
      · by_cases isBracket : char = '['
        · subst isBracket
          exact array after breaks read
        · by_cases isBrace : char = '\x7B'
          · subst isBrace
            exact inlineTable after breaks read
          · rw [value?_word isQuote isBracket isBrace] at read
            rw [List.cons_append, value?_word isQuote isBracket isBrace, ← List.cons_append]
            exact Scalar.steady_read? after breaks read

theorem steady_value? (depth : Nat) : Steady (value? depth) := by
  induction depth with
  | zero =>
      apply steady_value?_of_nested
      · intro text rest value mark after _ read
        cases read
      · intro text rest value mark after _ read
        cases read
  | succ depth inductionHypothesis =>
      apply steady_value?_of_nested
      · exact (steady_items? inductionHypothesis value?_nil).map Value.array
      · exact (steady_members? inductionHypothesis value?_nil []).map Value.inlineTable

end Values

end RuleDigest.Toml

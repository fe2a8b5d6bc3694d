import RuleDigest.Proofs.Toml.Readers

/-!
# Documents are read line by line

Two documents with a line end between them are one document, with the statements of both.  The
last line of the first one may have been ended by the end of the text alone; then it takes the
line end that now follows.
-/

namespace RuleDigest.Toml

variable {text rest after : Text}

theorem steady_header? (brackets : Nat) : Steady (header? brackets) := by
  intro text rest key mark after breaks read
  unfold header? at read ⊢
  rw [breaks.skipSpaces_append]
  split at read
  next found left isKey =>
    rw [steady_key? partLimit after breaks isKey]
    dsimp only at read ⊢
    split at read
    next closing =>
      cases read
      have whole := List.isPrefixOf_iff_prefix.1 closing
      have fits := whole.length_le
      rw [List.length_replicate] at fits
      rw [if_pos (List.isPrefixOf_iff_prefix.2 (whole.trans (List.prefix_append _ _))),
        List.drop_append_of_le_length fits]
    · cases read
  · cases read

/-- A text begins with the end of a line, and the second one is what follows. -/
inductive LineEnd : Text → Text → Prop where
  | lineFeed {after : Text} : LineEnd ('\n' :: after) after
  | both {after : Text} : LineEnd ('\r' :: '\n' :: after) after

section Lines

variable {behind : Text}

theorem LineEnd.exists_breaksLine (ends : LineEnd behind after) :
    ∃ mark others, BreaksLine mark ∧ behind = mark :: others := by
  cases ends with
  | lineFeed => exact ⟨'\n', after, .inl rfl, rfl⟩
  | both => exact ⟨'\r', '\n' :: after, .inr rfl, rfl⟩

theorem LineEnd.skipSpaces_append (ends : LineEnd behind after) (text : Text) :
    skipSpaces (text ++ behind) = skipSpaces text ++ behind := by
  obtain ⟨mark, others, breaks, rfl⟩ := ends.exists_breaksLine
  exact breaks.skipSpaces_append text others

theorem LineEnd.lineEnd?_append (ends : LineEnd behind after)
    (ended : lineEnd? text = some rest) :
    lineEnd? (text ++ behind) = some (rest ++ behind) ∨
      rest = [] ∧ lineEnd? (text ++ behind) = some after := by
  unfold lineEnd? at ended
  split at ended
  · cases ended
    cases ends with
    | lineFeed => exact .inr ⟨rfl, rfl⟩
    | both => exact .inr ⟨rfl, rfl⟩
  · cases ended
    exact .inl rfl
  · cases ended
    exact .inl rfl
  · cases ended

theorem finishLine?_comment {comment : Text} (opens : skipSpaces text = '#' :: comment) :
    finishLine? text = lineEnd? (comment.dropWhile isPlain) := by
  rw [finishLine?, opens]
  rfl

theorem finishLine?_bare (bare : ∀ comment, skipSpaces text ≠ '#' :: comment) :
    finishLine? text = lineEnd? (skipSpaces text) := by
  unfold finishLine?
  split
  next comment opens => exact absurd opens (bare comment)
  · rfl

/-- A line that the end of the text has ended goes on to the line end behind it. -/
theorem LineEnd.finishLine?_append (ends : LineEnd behind after)
    (finished : finishLine? text = some rest) :
    finishLine? (text ++ behind) = some (rest ++ behind) ∨
      rest = [] ∧ finishLine? (text ++ behind) = some after := by
  obtain ⟨mark, others, breaks, isBehind⟩ := ends.exists_breaksLine
  have skipped := ends.skipSpaces_append text
  by_cases opened : ∃ comment, skipSpaces text = '#' :: comment
  · obtain ⟨comment, opens⟩ := opened
    have dropped : (comment ++ behind).dropWhile isPlain =
        comment.dropWhile isPlain ++ behind := by
      rw [isBehind]
      exact dropWhile_append_stop breaks.not_isPlain comment others
    rw [finishLine?_comment opens] at finished
    rw [opens, List.cons_append] at skipped
    rw [finishLine?_comment skipped, dropped]
    exact ends.lineEnd?_append finished
  · have bare := not_exists.1 opened
    have notHash : mark ≠ '#' := by rcases breaks with rfl | rfl <;> decide
    rw [finishLine?_bare bare] at finished
    rw [finishLine?_bare, skipped]
    · exact ends.lineEnd?_append finished
    · rw [skipped, isBehind]
      exact not_cons_append bare fun _ => notHash

section Statements

variable {statement : Option Statement} {body : Text} {char : Char}

theorem finish_eq_some_iff {α : Type} {read : Option (α × Text)} {make : α → Statement} :
    statement?.finish read make = some (statement, rest) ↔
      ∃ content left, read = some (content, left) ∧ finishLine? left = some rest ∧
        statement = some (make content) := by
  simp only [statement?.finish, bind, Option.bind_eq_some_iff, Prod.exists, Option.pure_def,
    Option.some_inj, Prod.mk.injEq]
  constructor
  · rintro ⟨content, left, read, _, lineDone, made, rfl⟩
    exact ⟨content, left, read, lineDone, made.symm⟩
  · rintro ⟨content, left, read, lineDone, made⟩
    exact ⟨content, left, read, rest, lineDone, made.symm, rfl⟩

theorem LineEnd.finish_append {α : Type} {reader : Text → Option (α × Text)}
    {make : α → Statement} (ends : LineEnd behind after) (steady : Steady reader)
    (finished : statement?.finish (reader text) make = some (statement, rest)) :
    statement?.finish (reader (text ++ behind)) make = some (statement, rest ++ behind) ∨
      rest = [] ∧ statement?.finish (reader (text ++ behind)) make = some (statement, after) := by
  obtain ⟨mark, others, breaks, rfl⟩ := ends.exists_breaksLine
  obtain ⟨content, left, read, lineDone, rfl⟩ := finish_eq_some_iff.1 finished
  have readLonger := steady others breaks read
  rcases ends.finishLine?_append lineDone with goesOn | ⟨rfl, stops⟩
  · exact .inl (finish_eq_some_iff.2 ⟨content, _, readLonger, goesOn, rfl⟩)
  · exact .inr ⟨rfl, finish_eq_some_iff.2 ⟨content, _, readLonger, stops, rfl⟩⟩

theorem statement?_congr {other : Text} (same : skipSpaces text = skipSpaces other) :
    statement? text = statement? other := by
  rw [statement?, statement?, same]

theorem statement?_nil (opens : skipSpaces text = []) : statement? text = some (none, []) := by
  rw [statement?, opens]

theorem statement?_element (opens : skipSpaces text = '[' :: '[' :: body) :
    statement? text = statement?.finish (header? 2 body) .element := by
  rw [statement?, opens]
  rfl

theorem statement?_table (opens : skipSpaces text = '[' :: body)
    (single : ∀ more, body ≠ '[' :: more) :
    statement? text = statement?.finish (header? 1 body) .table := by
  rw [statement?, opens]
  split
  next same => cases same
  next more same => exact absurd (List.cons.inj same).2 (single more)
  next same =>
    cases same
    rfl
  next notBracket same => exact absurd (List.cons.inj same).1.symm notBracket

theorem statement?_blank (opens : skipSpaces text = char :: body)
    (blank : char = '#' ∨ char = '\n' ∨ char = '\r') :
    statement? text = (finishLine? (char :: body)).map fun rest => (none, rest) := by
  rw [statement?, opens]
  rcases blank with rfl | rfl | rfl <;> rfl

theorem statement?_assign {key : Key} {assigned : Text} (opens : skipSpaces text = char :: body)
    (notBracket : char ≠ '[') (notBlank : ¬ (char = '#' ∨ char = '\n' ∨ char = '\r'))
    (isKey : keyEquals? (char :: body) = some (key, assigned)) :
    statement? text = statement?.finish (value? depthLimit assigned) (.assign key) := by
  rw [statement?, opens]
  split
  next same => cases same
  next more same => exact absurd (List.cons.inj same).1 notBracket
  next same => exact absurd (List.cons.inj same).1 notBracket
  next same =>
    cases same
    rw [if_neg notBlank, isKey]

theorem statement?_stray (opens : skipSpaces text = char :: body)
    (notBracket : char ≠ '[') (notBlank : ¬ (char = '#' ∨ char = '\n' ∨ char = '\r'))
    (noKey : keyEquals? (char :: body) = none) : statement? text = none := by
  rw [statement?, opens]
  split
  next same => cases same
  next more same => exact absurd (List.cons.inj same).1 notBracket
  next same => exact absurd (List.cons.inj same).1 notBracket
  next same =>
    cases same
    rw [if_neg notBlank, noKey]

theorem LineEnd.statement?_self (ends : LineEnd behind after) :
    statement? behind = some (none, after) := by
  cases ends <;> rfl

theorem LineEnd.statement?_append (ends : LineEnd behind after)
    (read : statement? text = some (statement, rest)) :
    statement? (text ++ behind) = some (statement, rest ++ behind) ∨
      rest = [] ∧ statement? (text ++ behind) = some (statement, after) := by
  obtain ⟨mark, others, breaks, isBehind⟩ := ends.exists_breaksLine
  have skipped := ends.skipSpaces_append text
  cases opens : skipSpaces text with
  | nil =>
      rw [statement?_nil opens] at read
      cases read
      have sameStart : skipSpaces (text ++ behind) = skipSpaces behind := by
        have alone := ends.skipSpaces_append []
        rw [skipped, opens]
        exact alone.symm
      rw [statement?_congr sameStart, ends.statement?_self]
      exact .inr ⟨rfl, rfl⟩
  | cons char body =>
      rw [opens, List.cons_append] at skipped
      by_cases bracket : char = '['
      · subst bracket
        by_cases double : ∃ more, body = '[' :: more
        · obtain ⟨more, rfl⟩ := double
          rw [statement?_element opens] at read
          rw [statement?_element skipped]
          exact ends.finish_append (steady_header? 2) read
        · have single := not_exists.1 double
          have notBracket : mark ≠ '[' := by rcases breaks with rfl | rfl <;> decide
          rw [statement?_table opens single] at read
          rw [statement?_table skipped]
          · exact ends.finish_append (steady_header? 1) read
          · rw [isBehind]
            exact not_cons_append single fun _ => notBracket
      · by_cases blank : char = '#' ∨ char = '\n' ∨ char = '\r'
        · rw [statement?_blank opens blank] at read
          rw [statement?_blank skipped blank]
          obtain ⟨left, finished, same⟩ := Option.map_eq_some_iff.1 read
          cases same
          rw [← List.cons_append]
          rcases ends.finishLine?_append finished with goesOn | ⟨rfl, stops⟩
          · rw [goesOn]
            exact .inl rfl
          · rw [stops]
            exact .inr ⟨rfl, rfl⟩
        · cases isKey : keyEquals? (char :: body) with
          | none =>
              rw [statement?_stray opens bracket blank isKey] at read
              cases read
          | some found =>
              obtain ⟨key, assigned⟩ := found
              have isKeyLonger := steady_keyEquals? others breaks isKey
              rw [← isBehind, List.cons_append] at isKeyLonger
              rw [statement?_assign opens bracket blank isKey] at read
              rw [statement?_assign skipped bracket blank isKeyLonger]
              exact ends.finish_append (steady_value? depthLimit) read

theorem statements?_of_statement (read : statement? text = some (statement, rest))
    (shorter : rest.length < text.length) :
    statements? text = (statements? rest).map (statement.toList ++ ·) := by
  have filled : ¬ text.isEmpty = true := by
    intro empty
    rw [List.isEmpty_iff.1 empty] at shorter
    exact absurd shorter (Nat.not_lt_zero _)
  rw [statements?, if_neg filled, read]
  dsimp only
  rw [if_pos shorter]

end Statements

theorem LineEnd.length_lt (ends : LineEnd behind after) : after.length < behind.length := by
  cases ends with
  | lineFeed => exact Nat.lt_succ_self _
  | both => exact Nat.lt_add_of_pos_right (Nat.zero_lt_succ 1)

/-- Two documents with a line end between them are one document. -/
theorem LineEnd.statements?_append {found : List Statement} (ends : LineEnd behind after)
    (read : statements? text = some found) :
    statements? (text ++ behind) = (statements? after).map (found ++ ·) := by
  fun_induction statements? text generalizing found with
  | case1 text empty =>
      cases read
      rw [List.isEmpty_iff.1 empty, List.nil_append,
        statements?_of_statement ends.statement?_self ends.length_lt]
      rfl
  | case2 | case4 => cases read
  | case3 text _ statement rest isStatement shorter inductionHypothesis =>
      obtain ⟨others, restRead, rfl⟩ := Option.map_eq_some_iff.1 read
      have longer := ends.length_lt
      rcases ends.statement?_append isStatement with goesOn | ⟨rfl, stops⟩
      · rw [statements?_of_statement goesOn (by simpa using shorter),
          inductionHypothesis restRead, Option.map_map]
        simp only [Function.comp_def, List.append_assoc]
      · have none : others = [] := by
          rw [statements?] at restRead
          exact (Option.some.inj restRead).symm
        rw [statements?_of_statement stops (by rw [List.length_append]; omega), none,
          List.append_nil]

end Lines

end RuleDigest.Toml

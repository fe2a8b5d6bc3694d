import RuleDigest.Proofs.Toml.LineByLine
import RuleDigest.Proofs.Toml.Table

/-!
# Documents of assignments alone

A document that has one assignment to each of its lines, to keys that all differ, is read as
these keys with their values, in the order of the lines.
-/

namespace RuleDigest.Toml

variable {text document : Text}

/-- The text of a line, up to its end, that assigns a value to a key of the table. -/
structure Line where
  text : Text
  name : Text
  value : Value
  reads : statements? text = some [.assign [name] value]

def Line.entry (line : Line) : Text × Value :=
  (line.name, line.value)

/-! ## Lines with a bare key -/

section Bare

variable {name blanks written left : Text} {value : Value}

theorem ne_of_isBareKeyChar {char mark : Char} (bare : isBareKeyChar char = true)
    (notBare : isBareKeyChar mark = false) : char ≠ mark := by
  rintro rfl
  rw [bare] at notBare
  cases notBare

theorem not_isBareKeyChar_of_isSpace {char : Char} (space : isSpace char = true) :
    isBareKeyChar char = false := by
  simp only [isSpace, Bool.or_eq_true, beq_iff_eq] at space
  rcases space with rfl | rfl <;> rfl

theorem skipSpaces_append_equals (blank : ∀ char ∈ blanks, isSpace char = true)
    (written : Text) : skipSpaces (blanks ++ '=' :: written) = '=' :: written := by
  rw [skipSpaces, List.dropWhile_append_of_pos blank, List.dropWhile_cons_of_neg (by decide)]

theorem keyPart?_bareKey (filled : name ≠ []) (bare : ∀ char ∈ name, isBareKeyChar char = true)
    (blank : ∀ char ∈ blanks, isSpace char = true) (written : Text) :
    keyPart? (name ++ (blanks ++ '=' :: written)) = some (name, blanks ++ '=' :: written) := by
  have stops : ∃ mark after, isBareKeyChar mark = false ∧
      blanks ++ '=' :: written = mark :: after := by
    cases blanks with
    | nil => exact ⟨'=', written, rfl, rfl⟩
    | cons mark blanks =>
        exact ⟨mark, _, not_isBareKeyChar_of_isSpace (blank mark List.mem_cons_self), rfl⟩
  obtain ⟨mark, after, notBare, begins⟩ := stops
  have unquoted : ∀ char ∈ (name ++ mark :: after).head?, char ≠ '"' ∧ char ≠ '\'' := by
    cases name with
    | nil => exact absurd rfl filled
    | cons first rest =>
        have firstBare := bare first List.mem_cons_self
        rintro char ⟨⟩
        constructor
        · exact ne_of_isBareKeyChar firstBare (by decide)
        · exact ne_of_isBareKeyChar firstBare (by decide)
  have parts : (name ++ mark :: after).span isBareKeyChar = (name, mark :: after) := by
    rw [List.span_eq_takeWhile_dropWhile, List.takeWhile_append_of_pos bare,
      List.dropWhile_append_of_pos bare, List.takeWhile_cons_of_neg (by simp [notBare]),
      List.dropWhile_cons_of_neg (by simp [notBare]), List.append_nil]
  rw [begins, keyPart?_bare unquoted, parts, if_neg (by simpa using filled)]

theorem keyEquals?_bareKey (filled : name ≠ []) (bare : ∀ char ∈ name, isBareKeyChar char = true)
    (blank : ∀ char ∈ blanks, isSpace char = true) (written : Text) :
    keyEquals? (name ++ (blanks ++ '=' :: written)) = some ([name], skipSpaces written) := by
  have equals := skipSpaces_append_equals blank written
  have noDot : ∀ more, skipSpaces (blanks ++ '=' :: written) ≠ '.' :: more := by
    intro more dot
    rw [equals] at dot
    exact absurd (List.cons.inj dot).1 (by decide)
  have isKey : key? partLimit (name ++ (blanks ++ '=' :: written)) =
      some ([name], skipSpaces (blanks ++ '=' :: written)) :=
    key?_of_no_dot (keyPart?_bareKey filled bare blank written) noDot
  rw [keyEquals?, isKey, equals]
  rfl

/-- What a bare key, an equals sign and a value say, with blanks around the sign and a comment
behind the value as may be. -/
theorem statements?_bareKey (filled : name ≠ [])
    (bare : ∀ char ∈ name, isBareKeyChar char = true)
    (blank : ∀ char ∈ blanks, isSpace char = true)
    (read : value? depthLimit (skipSpaces written) = some (value, left))
    (finished : finishLine? left = some []) :
    statements? (name ++ (blanks ++ '=' :: written)) = some [.assign [name] value] := by
  have isKey := keyEquals?_bareKey filled bare blank written
  cases name with
  | nil => exact absurd rfl filled
  | cons first rest =>
      rw [List.cons_append] at isKey ⊢
      have differs {mark : Char} (notBare : isBareKeyChar mark = false) : first ≠ mark :=
        ne_of_isBareKeyChar (bare first List.mem_cons_self) notBare
      have notSpace : ¬ isSpace first = true := by
        intro space
        exact differs (not_isBareKeyChar_of_isSpace space) rfl
      have opens : skipSpaces (first :: (rest ++ (blanks ++ '=' :: written))) =
          first :: (rest ++ (blanks ++ '=' :: written)) :=
        List.dropWhile_cons_of_neg notSpace
      have notBlank : ¬ (first = '#' ∨ first = '\n' ∨ first = '\r') := by
        rintro (isHash | isMark | isMark)
        · exact differs (by decide) isHash
        · exact differs (by decide) isMark
        · exact differs (by decide) isMark
      have isStatement := statement?_assign opens (differs (by decide)) notBlank isKey
      rw [finish_eq_some_iff.2 ⟨value, left, read, finished, rfl⟩] at isStatement
      rw [statements?_of_statement isStatement (Nat.zero_lt_succ _), statements?]
      rfl

def Line.bare (filled : name ≠ []) (bare : name.all isBareKeyChar = true)
    (blank : blanks.all isSpace = true)
    (read : value? depthLimit (skipSpaces written) = some (value, left))
    (finished : finishLine? left = some []) : Line :=
  ⟨name ++ (blanks ++ '=' :: written), name, value,
    statements?_bareKey filled (List.all_eq_true.1 bare) (List.all_eq_true.1 blank) read finished⟩

end Bare

/-! ## Lines that make a document -/

/-- The lines stand one after the other, each with a line end behind it, which the last of them
may lack. -/
inductive Makes : List Line → Text → Prop where
  | nil : Makes [] []
  | last (line : Line) : Makes [line] line.text
  | cons {line : Line} {lines : List Line} {behind rest : Text} :
      LineEnd behind rest → Makes lines rest → Makes (line :: lines) (line.text ++ behind)

theorem dropByteOrderMark_of_ne (unmarked : ∀ rest, text ≠ '\uFEFF' :: rest) :
    dropByteOrderMark text = text := by
  unfold dropByteOrderMark
  split
  next rest => exact absurd rfl (unmarked rest)
  · rfl

/-- No statement begins with a byte order mark. -/
theorem ne_byteOrderMark_of_statements? {found : List Statement}
    (read : statements? text = some found) (rest : Text) : text ≠ '\uFEFF' :: rest := by
  rintro rfl
  have stray : statement? ('\uFEFF' :: rest) = none :=
    statement?_stray rfl (by decide) (by decide) rfl
  rw [statements?, stray] at read
  cases read

/-- Assignments to keys that all differ define what they assign. -/
theorem read?_of_assignments {entries : Entries}
    (read : statements? text = some (entries.map Statement.ofEntry))
    (distinct : entries.Distinct) : read? text = some entries := by
  rw [read?, dropByteOrderMark_of_ne (ne_byteOrderMark_of_statements? read), read]
  exact define?_map_ofEntry distinct

/-- What is no document behind the end of a line makes none of the whole. -/
theorem LineEnd.read?_append_eq_none {found : List Statement} {behind rest : Text}
    (ends : LineEnd behind rest) (read : statements? text = some found)
    (malformed : statements? rest = none) : read? (text ++ behind) = none := by
  obtain ⟨mark, others, breaks, isBehind⟩ := ends.exists_breaksLine
  have unmarked : ∀ more, text ++ behind ≠ '\uFEFF' :: more := by
    have differs : mark ≠ '\uFEFF' := by rcases breaks with rfl | rfl <;> decide
    rw [isBehind]
    exact not_cons_append (ne_byteOrderMark_of_statements? read) fun _ => differs
  rw [Toml.read?, dropByteOrderMark_of_ne unmarked, ends.statements?_append read, malformed]
  rfl

section Lines

variable {lines : List Line}

theorem Makes.statements? (makes : Makes lines document) :
    statements? document = some ((lines.map Line.entry).map Statement.ofEntry) := by
  induction makes with
  | nil =>
      rw [Toml.statements?]
      rfl
  | last line => exact line.reads
  | @cons line _ _ _ ends _ inductionHypothesis =>
      rw [ends.statements?_append line.reads, inductionHypothesis]
      rfl

theorem Makes.read? (makes : Makes lines document) (distinct : (lines.map Line.name).Nodup) :
    read? document = some (lines.map Line.entry) := by
  apply read?_of_assignments makes.statements?
  unfold Entries.Distinct
  rw [List.map_map]
  exact distinct

end Lines

end RuleDigest.Toml

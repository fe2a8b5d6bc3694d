import RuleDigest.Summary.Columns

/-!
# The columns of a line

A line is cut into the columns that it is made of, unless a column holds a separator itself.
No separator stands across the border between a column and the separator after it, since a
separator ends in another character than it begins with.
-/

namespace RuleDigest.Summary

section Cutting

variable {column rest : Text}

theorem cut_ne_nil (line : Text) : cut line ≠ [] := by
  intro empty
  unfold cut at empty
  split at empty
  · cases empty
  · cases empty
  · split at empty
    · cases empty
    · cases empty

theorem exists_cut_eq_cons (line : Text) : ∃ piece others, cut line = piece :: others :=
  List.exists_cons_of_ne_nil (cut_ne_nil line)

theorem cut_cons {char : Char} {piece : Text} {others : List Text}
    (within : ∀ more, char = ';' → rest ≠ ' ' :: more) (cutRest : cut rest = piece :: others) :
    cut (char :: rest) = (char :: piece) :: others := by
  rw [cut.eq_3 char rest within, cutRest]

theorem cut_append_separator (column rest : Text) :
    cut (column ++ separator ++ rest) = cut column ++ cut rest := by
  induction column using cut.induct with
  | case1 => rfl
  | case2 more inductionHypothesis =>
      change [] :: cut (more ++ separator ++ rest) = [] :: (cut more ++ cut rest)
      rw [inductionHypothesis]
  | case3 _ more _ empty => exact absurd empty (cut_ne_nil more)
  | case4 char more within piece others cutMore inductionHypothesis =>
      rw [cutMore] at inductionHypothesis
      rw [cut_cons within cutMore]
      -- A column that ends here is followed by a semicolon, and not by the space that would make
      -- a separator of its last character.
      apply cut_cons ?_ inductionHypothesis
      intro after isSemicolon same
      cases more with
      | nil => cases same
      | cons next later =>
          have isSpace : next = ' ' := (List.cons.inj same).1
          exact within later isSemicolon (by rw [isSpace])

/-- Nothing is lost of a line that is cut. -/
theorem intercalate_cut (line : Text) : separator.intercalate (cut line) = line := by
  induction line using cut.induct with
  | case1 => rfl
  | case2 more inductionHypothesis =>
      obtain ⟨piece, others, cutMore⟩ := exists_cut_eq_cons more
      change separator.intercalate ([] :: cut more) = separator ++ more
      rw [cutMore] at inductionHypothesis ⊢
      rw [List.intercalate_cons_cons, inductionHypothesis]
      rfl
  | case3 _ more _ empty => exact absurd empty (cut_ne_nil more)
  | case4 char more within piece others cutMore inductionHypothesis =>
      rw [cutMore] at inductionHypothesis
      rw [cut_cons within cutMore, ← inductionHypothesis]
      cases others with
      | nil => simp
      | cons second rest => simp [List.intercalate_cons_cons]

theorem not_prefix_of_within {char : Char} (within : ∀ more, char = ';' → rest ≠ ' ' :: more) :
    ¬ separator <+: char :: rest := by
  rintro ⟨after, same⟩
  cases same
  exact within after rfl rfl

theorem length_cut_eq_one_iff : (cut column).length = 1 ↔ ¬ separator <:+: column := by
  induction column using cut.induct with
  | case1 => simp [cut, separator]
  | case2 more _ =>
      obtain ⟨piece, others, cutMore⟩ := exists_cut_eq_cons more
      have begins : separator <:+: ';' :: ' ' :: more := (List.prefix_append separator more).isInfix
      have cutHere : cut (';' :: ' ' :: more) = [] :: cut more := rfl
      simp [cutHere, cutMore, begins]
  | case3 _ more _ empty => exact absurd empty (cut_ne_nil more)
  | case4 char more within piece others cutMore inductionHypothesis =>
      rw [cut_cons within cutMore, List.infix_cons_iff, or_iff_right (not_prefix_of_within within),
        ← inductionHypothesis, cutMore]
      rfl

theorem cut_of_not_infix (unseparated : ¬ separator <:+: column) : cut column = [column] := by
  obtain ⟨piece, isCut⟩ := List.length_eq_one_iff.1 (length_cut_eq_one_iff.2 unseparated)
  have joined := intercalate_cut column
  rw [isCut, List.intercalate_singleton] at joined
  rw [isCut, joined]

end Cutting

section Pieces

variable {pieces : List Text}

theorem length_le_length_flatMap_cut (pieces : List Text) :
    pieces.length ≤ (pieces.flatMap cut).length := by
  induction pieces with
  | nil => exact Nat.le_refl 0
  | cons piece rest inductionHypothesis =>
      have atLeastOne := List.length_pos_iff.2 (cut_ne_nil piece)
      simp only [List.flatMap_cons, List.length_append, List.length_cons]
      omega

theorem length_flatMap_cut_eq_iff :
    (pieces.flatMap cut).length = pieces.length ↔ ∀ piece ∈ pieces, ¬ separator <:+: piece := by
  induction pieces with
  | nil => simp
  | cons piece rest inductionHypothesis =>
      have atLeastOne := List.length_pos_iff.2 (cut_ne_nil piece)
      have restLarge := length_le_length_flatMap_cut rest
      rw [List.forall_mem_cons, ← inductionHypothesis, ← length_cut_eq_one_iff]
      simp only [List.flatMap_cons, List.length_append, List.length_cons]
      omega

theorem flatMap_cut_of_not_infix (unseparated : ∀ piece ∈ pieces, ¬ separator <:+: piece) :
    pieces.flatMap cut = pieces := by
  induction pieces with
  | nil => rfl
  | cons piece rest inductionHypothesis =>
      obtain ⟨here, later⟩ := List.forall_mem_cons.1 unseparated
      rw [List.flatMap_cons, cut_of_not_infix here, inductionHypothesis later]
      rfl

theorem cut_intercalate (some : pieces ≠ []) :
    cut (separator.intercalate pieces) = pieces.flatMap cut := by
  induction pieces with
  | nil => exact absurd rfl some
  | cons piece rest inductionHypothesis =>
      cases rest with
      | nil => simp
      | cons next others =>
          rw [List.intercalate_cons_cons, cut_append_separator,
            inductionHypothesis (List.cons_ne_nil next others)]
          rfl

/-- Pieces without a separator that make up a line with separators between them are those that
it is cut into, and no others are. -/
theorem cut_eq_iff {line : Text} (some : pieces ≠ []) :
    cut line = pieces ↔
      separator.intercalate pieces = line ∧ ∀ piece ∈ pieces, ¬ separator <:+: piece := by
  constructor
  · rintro rfl
    have joined := intercalate_cut line
    refine ⟨joined, length_flatMap_cut_eq_iff.1 ?_⟩
    rw [← cut_intercalate some, joined]
  · rintro ⟨rfl, unseparated⟩
    rw [cut_intercalate some, flatMap_cut_of_not_infix unseparated]

end Pieces

section Joining

variable {columns : List Text}

theorem joinColumns_cons (column : Text) (rest : List Text) :
    joinColumns (column :: rest) = column ++ separator ++ joinColumns rest := rfl

theorem intercalate_append_empty (columns : List Text) :
    separator.intercalate (columns ++ [[]]) = joinColumns columns := by
  induction columns with
  | nil => rfl
  | cons column rest inductionHypothesis =>
      obtain ⟨next, others, isCons⟩ :=
        List.exists_cons_of_ne_nil (List.append_ne_nil_of_right_ne_nil rest (List.cons_ne_nil [] []))
      rw [isCons] at inductionHypothesis
      rw [List.cons_append, isCons, List.intercalate_cons_cons, inductionHypothesis,
        joinColumns_cons]

theorem cut_joinColumns (columns : List Text) :
    cut (joinColumns columns) = columns.flatMap cut ++ [[]] := by
  rw [← intercalate_append_empty, cut_intercalate (by simp), List.flatMap_append]
  rfl

/-- A line is cut into its columns exactly if there is no separator in any of them. -/
theorem cut_joinColumns_iff :
    cut (joinColumns columns) = columns ++ [[]] ↔
      ∀ column ∈ columns, ¬ separator <:+: column := by
  have unseparated : ¬ separator <:+: [] := by decide
  rw [cut_eq_iff (by simp)]
  simp [intercalate_append_empty, or_imp, forall_and, unseparated]

theorem separatorCount_joinColumns (columns : List Text) :
    separatorCount (joinColumns columns) = (columns.flatMap cut).length := by
  simp [separatorCount, cut_joinColumns]

/-- There is one separator for each column exactly if none stands in a column. -/
theorem separatorCount_eq_length_iff :
    separatorCount (joinColumns columns) = columns.length ↔
      ∀ column ∈ columns, ¬ separator <:+: column := by
  rw [separatorCount_joinColumns, length_flatMap_cut_eq_iff]

theorem newline_mem_joinColumns_iff :
    '\n' ∈ joinColumns columns ↔ ∃ column ∈ columns, '\n' ∈ column := by
  have outside : '\n' ∉ separator := by decide
  simp [joinColumns, outside]

end Joining

/-- A text that is one column in one line. -/
def Plain (text : Text) : Prop :=
  '\n' ∉ text ∧ ¬ separator <:+: text

/-- Columns stay together in one line, with one separator for each of them, exactly if all of
them are plain. -/
theorem joinColumns_is_row_iff {columns : List Text} :
    '\n' ∉ joinColumns columns ∧ separatorCount (joinColumns columns) = columns.length ↔
      ∀ column ∈ columns, Plain column := by
  rw [newline_mem_joinColumns_iff, separatorCount_eq_length_iff]
  constructor
  · rintro ⟨unbroken, unseparated⟩ column membership
    constructor
    · intro broken
      exact unbroken ⟨column, membership, broken⟩
    · exact unseparated column membership
  · intro plain
    constructor
    · rintro ⟨column, membership, broken⟩
      exact (plain column membership).1 broken
    · intro column membership
      exact (plain column membership).2

end RuleDigest.Summary

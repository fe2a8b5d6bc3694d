import RuleDigest.ResultText.Format

/-!
# Lines and their terminators

A text is its lines with its terminators between them.  The pieces that the
reader looks at are the lines of such a text and empty pieces besides, so what
takes nothing from an empty line cannot tell one terminator from another.
-/

namespace RuleDigest.ResultText

/-- A text without characters that end a line. -/
def IsLine (text : Text) : Prop :=
  ∀ char ∈ text, endsLine char = false

/-- Lines with terminators between them make up a text. -/
inductive Cuts : List Text → List Terminator → Text → Prop where
  | last {line : Text} : IsLine line → Cuts [line] [] line
  | next {line rest : Text} {terminator : Terminator} {lines : List Text}
      {terminators : List Terminator} :
      IsLine line → Cuts lines terminators rest →
      Cuts (line :: lines) (terminator :: terminators) (line ++ terminator.text ++ rest)

theorem isLine_nil : IsLine [] :=
  List.forall_mem_nil _

theorem pieces_append {line : Text} (isLine : IsLine line) {char : Char}
    (ends : endsLine char = true) (rest : Text) :
    pieces (line ++ char :: rest) = line :: pieces rest :=
  List.splitOnP_append_cons_of_forall_mem isLine char ends rest

namespace Cuts

variable {parts : List Text} {between : List Terminator} {text : Text}

theorem cons {char : Char} {line : Text} (inside : endsLine char = false)
    (cuts : Cuts (line :: parts) between text) :
    Cuts ((char :: line) :: parts) between (char :: text) := by
  cases cuts with
  | last isLine => exact .last (List.forall_mem_cons.2 ⟨inside, isLine⟩)
  | next isLine rest => exact .next (List.forall_mem_cons.2 ⟨inside, isLine⟩) rest

theorem joinLines_eq (cuts : Cuts parts between text) : joinLines parts between = text := by
  induction cuts with
  | last isLine => simp [joinLines]
  | next isLine rest inductionHypothesis => rw [joinLines, inductionHypothesis]

theorem isLine_of_mem (cuts : Cuts parts between text) {line : Text}
    (membership : line ∈ parts) : IsLine line := by
  induction cuts with
  | last isLine =>
      obtain rfl := List.mem_singleton.1 membership
      exact isLine
  | next isLine rest inductionHypothesis =>
      rcases List.mem_cons.1 membership with rfl | later
      · exact isLine
      · exact inductionHypothesis later

theorem replaceTerminators (cuts : Cuts parts between text) {others : List Terminator}
    (same : others.length = between.length) : Cuts parts others (joinLines parts others) := by
  induction cuts generalizing others with
  | @last line isLine =>
      obtain rfl := List.length_eq_zero_iff.1 same
      simpa [joinLines] using Cuts.last isLine
  | @next line rest terminator parts between isLine later inductionHypothesis =>
      cases others with
      | nil => simp at same
      | cons other others =>
          rw [joinLines]
          exact .next isLine (inductionHypothesis (Nat.succ.inj same))

theorem filterMap_pieces {Value : Type} {taken? : Text → Option Value}
    (nothing : taken? [] = none) (cuts : Cuts parts between text) :
    (pieces text).filterMap taken? = parts.filterMap taken? := by
  induction cuts with
  | last isLine => rw [pieces, List.splitOnP_eq_singleton isLine]
  | @next line rest terminator parts between isLine later inductionHypothesis =>
      -- A carriage return and a line feed leave an empty piece between them.
      have apart : (pieces (line ++ terminator.text ++ rest)).filterMap taken? =
          (line :: pieces rest).filterMap taken? := by
        rw [List.append_assoc]
        cases terminator with
        | lineFeed => exact congrArg _ (pieces_append isLine rfl rest)
        | carriageReturn => exact congrArg _ (pieces_append isLine rfl rest)
        | both =>
            have empty : pieces ('\n' :: rest) = [] :: pieces rest :=
              pieces_append isLine_nil rfl rest
            change (pieces (line ++ '\r' :: '\n' :: rest)).filterMap taken? = _
            rw [pieces_append isLine rfl, empty]
            simp only [List.filterMap_cons, nothing]
      rw [apart, List.filterMap_cons, inductionHypothesis, List.filterMap_cons]

end Cuts

theorem lines_ne_nil (text : Text) : lines text ≠ [] := by
  fun_cases lines text <;> simp

/-- A text is cut into its lines at its terminators. -/
theorem cuts_lines (text : Text) : Cuts (lines text) (terminators text) text := by
  fun_induction lines text with
  | case1 => exact .last isLine_nil
  | case2 rest inductionHypothesis => exact .next isLine_nil inductionHypothesis
  | case3 char rest notBoth ends inductionHypothesis =>
      rw [terminators.eq_3 char rest notBoth]
      split
      next lineFeed =>
        subst lineFeed
        exact .next isLine_nil inductionHypothesis
      next other =>
        have carriageReturn : char = '\r' := by simpa [endsLine, other] using ends
        rw [if_pos carriageReturn, carriageReturn]
        exact .next isLine_nil inductionHypothesis
  | case4 char rest notBoth inside none inductionHypothesis =>
      exact absurd none (lines_ne_nil rest)
  | case5 char rest notBoth inside line others found inductionHypothesis =>
      rw [found] at inductionHypothesis
      have neither : char ≠ '\n' ∧ char ≠ '\r' := by simpa [endsLine] using inside
      rw [terminators.eq_3 char rest notBoth, if_neg neither.1, if_neg neither.2]
      exact inductionHypothesis.cons (by simpa using inside)

end RuleDigest.ResultText

import RuleDigest.ResultText.Format

/-!
# Tokens of a line

The splitter finds the maximal runs of characters that are not blank, whatever
stands before, between and after them, so a line records exactly the value that
the format says.
-/

namespace RuleDigest.ResultText

theorem tokens_cons_of_blank {char : Char} (blank : isBlank char = true) (rest : Text) :
    tokens (char :: rest) = tokens rest := by
  unfold tokens
  rw [List.splitOnP_cons_eq_if_modifyHead, if_pos blank]
  rfl

theorem tokens_gap_append {gap : Text} (blank : IsGap gap) (rest : Text) :
    tokens (gap ++ rest) = tokens rest := by
  induction gap with
  | nil => rfl
  | cons char gap inductionHypothesis =>
      have ⟨charBlank, gapBlank⟩ := List.forall_mem_cons.1 blank
      rw [List.cons_append, tokens_cons_of_blank charBlank, inductionHypothesis gapBlank]

theorem tokens_token_append {token rest : Text} (solid : IsToken token) (ends : EndsToken rest) :
    tokens (token ++ rest) = token :: tokens rest := by
  obtain ⟨notEmpty, notBlank⟩ := solid
  have kept (pieces : List Text) :
      (token :: pieces).filter (fun piece => !piece.isEmpty) =
        token :: pieces.filter fun piece => !piece.isEmpty := by
    simp [notEmpty]
  cases rest with
  | nil =>
      rw [List.append_nil, tokens, List.splitOnP_eq_singleton notBlank, kept]
      rfl
  | cons char rest =>
      have blank : isBlank char = true := ends char rfl
      rw [tokens, List.splitOnP_append_cons_of_forall_mem notBlank char blank, kept,
        tokens_cons_of_blank blank]
      rfl

/-- A line has no other tokens than those that the splitter finds. -/
theorem HasTokens.eq_tokens {line : Text} {words : List Text} (has : HasTokens line words) :
    tokens line = words := by
  induction has with
  | done gap =>
      have found := tokens_gap_append gap []
      rwa [List.append_nil] at found
  | token gap solid ends _ inductionHypothesis =>
      rw [List.append_assoc, tokens_gap_append gap, tokens_token_append solid ends,
        inductionHypothesis]

theorem HasTokens.cons_blank {char : Char} {line : Text} {words : List Text}
    (blank : isBlank char = true) (has : HasTokens line words) :
    HasTokens (char :: line) words := by
  cases has with
  | done gap => exact .done (List.forall_mem_cons.2 ⟨blank, gap⟩)
  | token gap solid ends rest =>
      exact .token (List.forall_mem_cons.2 ⟨blank, gap⟩) solid ends rest

theorem HasTokens.cons_solid {char : Char} {line : Text} {words : List Text}
    (solid : isBlank char = false) (has : HasTokens line words) :
    ∃ others, HasTokens (char :: line) others := by
  have noGap : IsGap [] := List.forall_mem_nil _
  have alone : IsToken [char] := ⟨List.cons_ne_nil _ _, List.forall_mem_singleton.2 solid⟩
  cases has with
  | done gap =>
      have apart : EndsToken line := fun first head => gap first (List.mem_of_mem_head? head)
      exact ⟨_, .token noGap alone apart (.done gap)⟩
  | @token gap token rest others gapBlank tokenSolid ends restHas =>
      cases gap with
      | nil =>
          have longer : IsToken (char :: token) :=
            ⟨List.cons_ne_nil _ _, List.forall_mem_cons.2 ⟨solid, tokenSolid.2⟩⟩
          exact ⟨_, .token noGap longer ends restHas⟩
      | cons blank gap =>
          have apart : EndsToken (blank :: gap ++ token ++ rest) := by
            intro first head
            obtain rfl : blank = first := by simpa using head
            exact gapBlank blank List.mem_cons_self
          exact ⟨_, .token noGap alone apart (.token gapBlank tokenSolid ends restHas)⟩

/-- Every line has tokens. -/
theorem exists_hasTokens (line : Text) : ∃ words, HasTokens line words := by
  induction line with
  | nil => exact ⟨[], .done (List.forall_mem_nil _)⟩
  | cons char line inductionHypothesis =>
      obtain ⟨words, has⟩ := inductionHypothesis
      cases blank : isBlank char with
      | true => exact ⟨words, has.cons_blank blank⟩
      | false => exact has.cons_solid blank

theorem hasTokens_iff {line : Text} {words : List Text} :
    HasTokens line words ↔ tokens line = words := by
  constructor
  · exact HasTokens.eq_tokens
  · rintro rfl
    obtain ⟨words, has⟩ := exists_hasTokens line
    rwa [has.eq_tokens]

theorem HasTokens.isToken {line : Text} {words : List Text} (has : HasTokens line words) :
    ∀ word ∈ words, IsToken word := by
  induction has with
  | done _ => exact List.forall_mem_nil _
  | token _ isToken _ _ inductionHypothesis =>
      exact List.forall_mem_cons.2 ⟨isToken, inductionHypothesis⟩

/-- The reader takes from a line the value that the line records. -/
theorem recorded?_eq_some_iff {key line value : Text} :
    recorded? key line = some value ↔ Records key line value := by
  unfold recorded? Records
  simp only [hasTokens_iff]
  split
  next first second others found =>
    by_cases same : first = key ++ [':'] <;> simp [found, keyToken, same]
  next short =>
    simp only [reduceCtorEq, false_iff, not_exists]
    intro others found
    exact short _ _ _ found

theorem recorded?_eq_none_iff {key line : Text} :
    recorded? key line = none ↔ ∀ value, ¬ Records key line value := by
  rw [Option.eq_none_iff_forall_ne_some]
  simp only [ne_eq, recorded?_eq_some_iff]

end RuleDigest.ResultText

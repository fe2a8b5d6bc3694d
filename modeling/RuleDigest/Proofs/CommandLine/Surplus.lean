import RuleDigest.Proofs.CommandLine.Requests

/-!
# Arguments behind a complete command line

After two dashes everything is positional.  Behind a command line that has its two positional
arguments these are further ones, which wait together and are checked at the end.
-/

namespace RuleDigest.CommandLine

variable {state next : State} {options : Options} {values : List Bytes} {arguments : List Bytes}

/-! ## Two dashes -/

theorem eq_dashes_of_escape {argument : Bytes} (word : Word.ofBytes argument = .escape) :
    argument = Utf8.ofString "--" := by
  unfold Word.ofBytes at word
  split at word
  next first second rest =>
    split at word
    next dashes =>
      split at word
      next empty =>
        rw [dashes.1, dashes.2, List.isEmpty_iff.1 empty]
        rfl
      · cases word
    · split at word
      · cases word
      · cases word
  · cases word

/-- Nothing but two dashes makes what follows positional. -/
theorem Tracks.escaped_of_step {taken : List Part} {argument : Bytes} (tracks : Tracks state taken)
    (other : argument ≠ Utf8.ofString "--") (stepped : state.step argument = .ok next) :
    next.escaped = state.escaped := by
  unfold State.step at stepped
  split at stepped
  · exact (tracks.position stepped).escaped
  · split at stepped
    next word => exact absurd (eq_dashes_of_escape word) other
    next word => exact (tracks.long word stepped).2.1
    next word => exact (tracks.raiseAll (Word.names_ne_nil word) stepped).escaped
    · split at stepped
      · cases stepped
        rfl
      · exact (tracks.position stepped).escaped

theorem Tracks.escaped_of_steps {taken : List Part} (tracks : Tracks state taken)
    (plain : Utf8.ofString "--" ∉ arguments) (read : state.steps arguments = .ok next) :
    next.escaped = state.escaped := by
  induction arguments generalizing state taken with
  | nil =>
      cases read
      rfl
  | cons argument rest inductionHypothesis =>
      rw [List.mem_cons, not_or] at plain
      simp only [State.steps] at read
      split at read
      next middle stepped =>
        obtain ⟨added, middleTracks, _⟩ := tracks.step stepped
        rw [inductionHypothesis middleTracks plain.2 read]
        exact tracks.escaped_of_step (Ne.symm plain.1) stepped
      · cases read

/-! ## What waits behind them -/

theorem settle_extra_nil (options : Options) : options.settle (.extra []) = .ok options :=
  settle_extra_eq_ok_iff.2 ⟨[], rfl, by simp⟩

theorem settle_extra_append {settled : Options}
    (settles : options.settle (.extra values) = .ok settled) (more : List Bytes) :
    options.settle (.extra (values ++ more)) = settled.settle (.extra more) := by
  obtain ⟨texts, encoded, rfl⟩ := settle_extra_eq_ok_iff.1 settles
  have decoded := Utf8.mapM_decode?_eq_some_iff.2 encoded
  simp only [Options.settle, List.mapM_append, decoded]
  cases more.mapM Utf8.decode? with
  | none => rfl
  | some others => simp

theorem settle_extra_of_not_texts (foreign : ∃ value ∈ values, ∀ text, value ≠ Utf8.encode text)
    (options : Options) : options.settle (.extra values) = .error .notUtf8 := by
  obtain ⟨value, membership, noText⟩ := foreign
  cases decoded : values.mapM Utf8.decode? with
  | none => simp only [Options.settle, decoded]
  | some texts =>
      rw [Utf8.mapM_decode?_eq_some_iff.1 decoded] at membership
      obtain ⟨text, _, same⟩ := List.mem_map.1 membership
      exact absurd same.symm (noText text)

theorem position_of_pending_extra {waiting : List Bytes} (several : 2 ≤ state.positionals)
    (pending : state.pending = .extra waiting) (value : Bytes) :
    ∃ next, state.position value = .ok next ∧ next.options = state.options ∧
      next.escaped = state.escaped ∧ 2 ≤ next.positionals ∧
      next.pending = .extra (waiting ++ [value]) := by
  unfold State.position
  dsimp only
  split
  next none => omega
  next one => omega
  next values waits _ _ =>
    rw [pending] at waits
    cases waits
    exact ⟨_, rfl, rfl, rfl, Nat.le_succ_of_le several, rfl⟩
  next other => exact absurd pending (other waiting)

theorem position_of_pending_other (several : 2 ≤ state.positionals)
    (pending : ∀ waiting, state.pending ≠ .extra waiting)
    (settles : state.options.settle state.pending = .ok options) (value : Bytes) :
    ∃ next, state.position value = .ok next ∧ next.options = options ∧
      next.escaped = state.escaped ∧ 2 ≤ next.positionals ∧ next.pending = .extra [value] := by
  unfold State.position
  dsimp only
  split
  next none => omega
  next one => omega
  next waiting waits _ _ => exact absurd waits (pending waiting)
  next =>
    exact ⟨_, await_eq_ok_iff.2 ⟨options, settles, rfl⟩, rfl, rfl, Nat.le_succ_of_le several, rfl⟩

/-- Further positional arguments join those that wait. -/
theorem steps_of_pending_extra {waiting : List Bytes} (escaped : state.escaped = true)
    (several : 2 ≤ state.positionals) (pending : state.pending = .extra waiting)
    (values : List Bytes) :
    ∃ next, state.steps values = .ok next ∧ next.options = state.options ∧
      next.pending = .extra (waiting ++ values) := by
  induction values generalizing state waiting with
  | nil => exact ⟨state, rfl, rfl, by rw [pending, List.append_nil]⟩
  | cons value rest inductionHypothesis =>
      obtain ⟨middle, positioned, same, still, enough, held⟩ :=
        position_of_pending_extra several pending value
      simp only [State.steps, State.step, escaped, if_true, positioned]
      rw [List.append_cons, ← same]
      exact inductionHypothesis (still.trans escaped) enough held

/-- Behind two dashes further positional arguments come down to a settling of them all. -/
theorem exists_steps_surplus (state : State) (escaped : state.escaped = true)
    (several : 2 ≤ state.positionals)
    (settles : state.options.settle state.pending = .ok options) (surplus : List Bytes) :
    ∃ next, state.steps surplus = .ok next ∧
      next.options.settle next.pending = options.settle (.extra surplus) := by
  by_cases waits : ∃ waiting, state.pending = .extra waiting
  · obtain ⟨waiting, pending⟩ := waits
    obtain ⟨next, read, same, held⟩ := steps_of_pending_extra escaped several pending surplus
    refine ⟨next, read, ?_⟩
    rw [pending] at settles
    rw [same, held]
    exact settle_extra_append settles surplus
  · have pending : ∀ waiting, state.pending ≠ .extra waiting := fun waiting equal =>
      waits ⟨waiting, equal⟩
    cases surplus with
    | nil => exact ⟨state, rfl, by rw [settles, settle_extra_nil]⟩
    | cons value rest =>
        -- What waits before the first of them is settled when that one comes.
        obtain ⟨middle, positioned, same, still, enough, held⟩ :=
          position_of_pending_other several pending settles value
        obtain ⟨next, read, unchanged, all⟩ :=
          steps_of_pending_extra (still.trans escaped) enough held rest
        refine ⟨next, ?_, ?_⟩
        · simp only [State.steps, State.step, escaped, if_true, positioned, read]
        · rw [unchanged, same, all]
          rfl

/-- A command line with its two positional arguments takes further ones behind two dashes, and
only their text is checked. -/
theorem parse_append_surplus (accepted : parse arguments = .ok (.run options))
    (complete : 2 ≤ (positionals (parts arguments)).length)
    (plain : Utf8.ofString "--" ∉ arguments) (surplus : List Bytes) :
    parse (arguments ++ Utf8.ofString "--" :: surplus) =
      (options.settle (.extra surplus)).map .run := by
  obtain ⟨state, read, tracks, settles⟩ := tracks_of_parse accepted
  have opened : state.escaped = false := tracks_start.escaped_of_steps plain read
  have several : 2 ≤ state.positionals := by rwa [tracks.count]
  have dashes : state.step (Utf8.ofString "--") = .ok { state with escaped := true } := by
    simp [State.step, opened, show Word.ofBytes (Utf8.ofString "--") = .escape by decide]
  obtain ⟨next, further, same⟩ :=
    exists_steps_surplus { state with escaped := true } rfl several settles surplus
  have whole : State.start.steps (arguments ++ Utf8.ofString "--" :: surplus) = .ok next := by
    rw [State.steps_append, read]
    simp only [Except.bind, State.steps, dashes, further]
  simp only [parse, whole, same]
  cases options.settle (.extra surplus) with
  | ok settled => rfl
  | error error => rfl

end RuleDigest.CommandLine

import RuleDigest.Proofs.CommandLine.Reading

/-!
# Requests for an answer

A reading ends early with a request where a flag asks for help or for the version.  What comes
before that flag is in order by then, since acting on a flag settles whatever still waits.  No
such request is one for a run, so a command line that is accepted is read to its end.
-/

namespace RuleDigest.CommandLine

/-- What a flag asks for instead of a run. -/
def Flag.request? : Flag → Option Request
  | .help full => some (.help full)
  | .version => some .version
  | _ => none

/-- An argument spells a flag out, behind other parts that it holds. -/
inductive Word.SpellsOut : Word → List Part → Flag → Prop where
  | long {name : Bytes} {flag : Flag} :
      Flag.ofLong? name = some flag → SpellsOut (.long name none) [] flag
  | short {before after : List (Option Char)} {letter : Char} {flag : Flag} :
      Flag.ofShort? letter = some flag →
      SpellsOut (.short (before ++ some letter :: after)) (before.map Part.ofShort) flag

section Requests

variable {state : State} {request : Request} {taken : List Part}

theorem Flag.request?_not_run {flag : Flag} {options : Options} :
    flag.request? ≠ some (.run options) := by
  cases flag <;> simp [Flag.request?]

theorem settle_not_asked : state.settle ≠ .error (.asked request) := by
  unfold State.settle
  cases state.options.settle state.pending with
  | error error => simp
  | ok options => simp

theorem await_not_asked {pending : Pending} : state.await pending ≠ .error (.asked request) := by
  intro asked
  unfold State.await at asked
  cases settled : state.settle with
  | error early =>
      rw [settled] at asked
      cases asked
      exact settle_not_asked settled
  | ok next =>
      rw [settled] at asked
      cases asked

theorem position_not_asked {value : Bytes} : state.position value ≠ .error (.asked request) := by
  intro asked
  unfold State.position at asked
  dsimp only at asked
  split at asked
  · exact await_not_asked asked
  · exact await_not_asked asked
  · cases asked
  · exact await_not_asked asked

theorem turnOn_asked_iff {options : Options} {flag : Flag} :
    State.turnOn options flag = .error (.asked request) ↔ flag.request? = some request := by
  cases flag with
  | header | verbose | json =>
      simp only [State.turnOn, Flag.request?, reduceCtorEq, iff_false]
      split <;> simp
  | help full => simp [State.turnOn, Flag.request?]
  | version => simp [State.turnOn, Flag.request?]

/-- A flag is answered if it asks for something and what waits before it can be settled. -/
theorem raise_asked_iff {flag : Flag} :
    state.raise flag = .error (.asked request) ↔
      flag.request? = some request ∧
        ∃ options, state.options.settle state.pending = .ok options := by
  simp only [State.raise, bind, Except.bind]
  cases settled : state.settle with
  | error early =>
      simp only [Except.error.injEq]
      constructor
      · rintro rfl
        exact absurd settled settle_not_asked
      · rintro ⟨_, options, settles⟩
        rw [settle_eq_ok_iff.2 ⟨options, settles, rfl⟩] at settled
        cases settled
  | ok middle =>
      obtain ⟨options, settles, _⟩ := settle_eq_ok_iff.1 settled
      rw [← @turnOn_asked_iff request middle.options flag]
      cases turns : State.turnOn middle.options flag with
      | error early => simp [turns, settles]
      | ok turned => simp [turns, pure, Except.pure]

theorem Tracks.raise_asked {flag : Flag} (tracks : Tracks state taken)
    (asked : state.raise flag = .error (.asked request)) :
    state.awaits = false ∧ flag.request? = some request ∧
      ∃ options, Describes options taken := by
  obtain ⟨requested, options, settles⟩ := raise_asked_iff.1 asked
  exact ⟨awaits_of_settle settles, requested, options, tracks.describes settles⟩

theorem Tracks.raiseAll_asked {names : List (Option Char)} (tracks : Tracks state taken)
    (asked : state.raiseAll names = .error (.asked request)) :
    state.awaits = false ∧ ∃ held flag, (Word.short names).SpellsOut held flag ∧
      flag.request? = some request ∧ ∃ options, Describes options (taken ++ held) := by
  induction names generalizing state taken with
  | nil => cases asked
  | cons name? rest inductionHypothesis =>
      cases name? with
      | none => cases asked
      | some name =>
          simp only [State.raiseAll] at asked
          split at asked
          next flag named =>
            split at asked
            next middle raised =>
              have added := tracks.raise raised
              obtain ⟨_, _, later, spelled, requested, options, describes⟩ :=
                inductionHypothesis added.tracks asked
              cases spelled with
              | @short before after letter _ known =>
                  refine ⟨added.idle, _, later,
                    @Word.SpellsOut.short (some name :: before) _ _ _ known, requested, options, ?_⟩
                  simpa [Part.ofShort, named] using describes
            next early raised =>
              cases asked
              obtain ⟨idle, requested, options, describes⟩ := tracks.raise_asked raised
              refine ⟨idle, [], flag, @Word.SpellsOut.short [] _ _ _ named, requested, options, ?_⟩
              rwa [List.append_nil]
          · cases asked

theorem Tracks.long_asked {name : Bytes} {value? : Option Bytes} (tracks : Tracks state taken)
    (asked : state.long name value? = .error (.asked request)) :
    state.awaits = false ∧ ∃ flag, (Word.long name value?).SpellsOut [] flag ∧
      flag.request? = some request ∧ ∃ options, Describes options taken := by
  unfold State.long at asked
  split at asked
  · split at asked
    · exact absurd asked await_not_asked
    next value =>
      simp only [bind, Except.bind] at asked
      split at asked
      next early awaited =>
        cases asked
        exact absurd awaited await_not_asked
      · exact absurd asked settle_not_asked
  · split at asked
    next flag named =>
      obtain ⟨idle, requested, described⟩ := tracks.raise_asked asked
      exact ⟨idle, flag, .long named, requested, described⟩
    · cases asked
    · cases asked

/-- An argument that is answered spells out a flag that asks for this, behind parts in order. -/
theorem Tracks.step_asked {argument : Bytes} (tracks : Tracks state taken)
    (asked : state.step argument = .error (.asked request)) :
    state.escaped = false ∧ state.awaits = false ∧
      ∃ held flag, (Word.ofBytes argument).SpellsOut held flag ∧ flag.request? = some request ∧
        ∃ options, Describes options (taken ++ held) := by
  unfold State.step at asked
  split at asked
  · exact absurd asked position_not_asked
  next unescaped =>
    refine ⟨by simpa using unescaped, ?_⟩
    split at asked
    · cases asked
    next name value? word =>
      obtain ⟨idle, flag, spelled, requested, described⟩ := tracks.long_asked asked
      refine ⟨idle, [], flag, word ▸ spelled, requested, ?_⟩
      rwa [List.append_nil]
    next names word => exact word ▸ tracks.raiseAll_asked asked
    · split at asked
      · cases asked
      · exact absurd asked position_not_asked

/-- The reading ends early at the first argument that ends it. -/
theorem steps_eq_error_iff {arguments : List Bytes} {early : Early} :
    state.steps arguments = .error early ↔
      ∃ before argument after next, arguments = before ++ argument :: after ∧
        state.steps before = .ok next ∧ next.step argument = .error early := by
  constructor
  · intro ended
    induction arguments generalizing state with
    | nil => cases ended
    | cons argument rest inductionHypothesis =>
        simp only [State.steps] at ended
        split at ended
        next middle stepped =>
          obtain ⟨before, last, after, next, split, read, stops⟩ := inductionHypothesis ended
          refine ⟨argument :: before, last, after, next, by rw [split]; rfl, ?_, stops⟩
          simp only [State.steps, stepped, read]
        next stops =>
          cases ended
          exact ⟨[], argument, rest, state, rfl, rfl, stops⟩
  · rintro ⟨before, argument, after, next, rfl, read, stops⟩
    rw [State.steps_append, read]
    simp only [Except.bind, State.steps, stops]

end Requests

/-- No command line is answered with a run. -/
theorem steps_not_asked_run {arguments : List Bytes} {options : Options} :
    State.start.steps arguments ≠ .error (.asked (.run options)) := by
  intro asked
  obtain ⟨before, argument, after, state, _, read, stops⟩ := steps_eq_error_iff.1 asked
  obtain ⟨added, tracks, _⟩ := tracks_start.steps read
  obtain ⟨_, _, _, flag, _, requested, _⟩ := tracks.step_asked stops
  exact Flag.request?_not_run requested

/-- What is read is all of a command line, unless an option still awaits its value. -/
theorem tracks_parts {arguments : List Bytes} {state : State}
    (read : State.start.steps arguments = .ok state) (idle : state.awaits = false) :
    Tracks state (parts arguments) := by
  obtain ⟨added, tracks, same⟩ := tracks_start.steps read
  have nothingLeft : state.partsAfter [] = [] := by
    simp [State.partsAfter, partsFrom, unserved, idle]
  rw [nothingLeft, List.append_nil] at same
  have whole : parts arguments = added := same
  rwa [whole]

/-- A command line that is accepted is read to its end, and what waits there can be settled. -/
theorem tracks_of_parse {arguments : List Bytes} {options : Options}
    (accepted : parse arguments = .ok (.run options)) :
    ∃ state, State.start.steps arguments = .ok state ∧ Tracks state (parts arguments) ∧
      state.options.settle state.pending = .ok options := by
  unfold parse at accepted
  split at accepted
  next request asked =>
    cases accepted
    exact absurd asked steps_not_asked_run
  · cases accepted
  next state read =>
    split at accepted
    next settled settles =>
      cases accepted
      exact ⟨state, read, tracks_parts read (awaits_of_settle settles), settles⟩
    · cases accepted

/-- The options of a command line that is accepted describe its parts. -/
theorem describes_of_parse {arguments : List Bytes} {options : Options}
    (accepted : parse arguments = .ok (.run options)) : Describes options (parts arguments) := by
  obtain ⟨state, _, tracks, settles⟩ := tracks_of_parse accepted
  exact tracks.describes settles

end RuleDigest.CommandLine

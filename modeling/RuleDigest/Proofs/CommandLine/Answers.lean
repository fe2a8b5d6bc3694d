import RuleDigest.Proofs.CommandLine.Acceptance

/-!
# Answers, acceptance and refusal

A command line is answered where it spells out a flag that asks for help or for the version
before anything that is not in order.  It is accepted if all of it is in order, and refused if
it is neither answered nor accepted.  All three are said of its arguments and parts alone.
-/

namespace RuleDigest.CommandLine

/-- A command line asks for an answer by a flag.  Options may stand there, and the parts before
the flag are in order, those in the same argument included. -/
def Asks (arguments : List Bytes) (request : Request) : Prop :=
  ∃ before argument after held flag, arguments = before ++ argument :: after ∧
    (∀ earlier ∈ before, Word.ofBytes earlier ≠ .escape) ∧
    (Word.ofBytes argument).SpellsOut held flag ∧ flag.request? = some request ∧
    Fits (parts before ++ held)

section Steps

variable {state next : State} {taken : List Part}

theorem Tracks.step_escaped {argument : Bytes} (tracks : Tracks state taken)
    (stepped : state.step argument = .ok next) :
    next.escaped = false ↔ state.escaped = false ∧ Word.ofBytes argument ≠ .escape := by
  unfold State.step at stepped
  split at stepped
  next escaped => simp [(tracks.position stepped).escaped, escaped]
  next unescaped =>
    have opened : state.escaped = false := by simpa using unescaped
    split at stepped
    next word =>
      cases stepped
      simp [word]
    next name value? word =>
      obtain ⟨_, escaped, _⟩ := tracks.long word stepped
      simp [escaped, opened, word]
    next names word =>
      have added := tracks.raiseAll (Word.names_ne_nil word) stepped
      simp [added.escaped, opened, word]
    next value word =>
      split at stepped
      · cases stepped
        simp [opened, word]
      · simp [(tracks.position stepped).escaped, opened, word]

/-- Options may stand behind arguments of which none is two dashes. -/
theorem Tracks.steps_escaped {arguments : List Bytes} (tracks : Tracks state taken)
    (read : state.steps arguments = .ok next) :
    next.escaped = false ↔
      state.escaped = false ∧ ∀ argument ∈ arguments, Word.ofBytes argument ≠ .escape := by
  induction arguments generalizing state taken with
  | nil =>
      cases read
      simp
  | cons argument rest inductionHypothesis =>
      simp only [State.steps] at read
      split at read
      next middle stepped =>
        obtain ⟨_, middleTracks, _⟩ := tracks.step stepped
        rw [inductionHypothesis middleTracks read, tracks.step_escaped stepped, List.forall_mem_cons,
          and_assoc]
      · cases read

theorem raiseAll_append {first : List (Option Char)} (raised : state.raiseAll first = .ok next)
    (second : List (Option Char)) :
    state.raiseAll (first ++ second) = next.raiseAll second := by
  induction first generalizing state with
  | nil =>
      cases raised
      rfl
  | cons name? rest inductionHypothesis =>
      cases name? with
      | none => cases raised
      | some name =>
          simp only [List.cons_append, State.raiseAll] at raised ⊢
          split at raised
          · split at raised
            · exact inductionHypothesis raised
            · cases raised
          · cases raised

/-- Raising short names leaves nothing that awaits a value. -/
theorem Tracks.exists_raiseAll_idle {names : List (Option Char)} (tracks : Tracks state taken)
    (fits : Fits (taken ++ names.map Part.ofShort)) (idle : state.awaits = false) :
    ∃ middle, state.raiseAll names = .ok middle ∧ middle.awaits = false ∧
      Tracks middle (taken ++ names.map Part.ofShort) := by
  obtain ⟨middle, raised⟩ := tracks.exists_raiseAll fits idle
  by_cases none : names = []
  · subst none
    cases raised
    exact ⟨state, rfl, idle, by simpa using tracks⟩
  · have added := tracks.raiseAll none raised
    exact ⟨middle, raised, added.ready, added.tracks⟩

/-- A flag that asks for an answer gets it if what is before it in its argument is in order. -/
theorem Tracks.step_asks {argument : Bytes} {held : List Part} {flag : Flag} {request : Request}
    (tracks : Tracks state taken) (idle : state.awaits = false) (opened : state.escaped = false)
    (spelled : (Word.ofBytes argument).SpellsOut held flag) (requested : flag.request? = some request)
    (fits : Fits (taken ++ held)) : state.step argument = .error (.asked request) := by
  simp only [State.step, opened, Bool.false_eq_true, if_false]
  generalize Word.ofBytes argument = word at spelled
  cases spelled with
  | @long name flag named =>
      have other : name ≠ Utf8.ofString "rules-dir" := by
        rintro rfl
        cases named
      rw [List.append_nil] at fits
      have settled := tracks.exists_settled fits idle
      simp only [State.long, other, if_false, named]
      exact raise_asked_iff.2 ⟨requested, settled⟩
  | @short before after letter flag named =>
      obtain ⟨middle, raised, ready, middleTracks⟩ := tracks.exists_raiseAll_idle fits idle
      have settled := middleTracks.exists_settled fits ready
      have stops := raise_asked_iff.2 ⟨requested, settled⟩
      simp only [raiseAll_append raised, State.raiseAll, named, stops]

end Steps

section Parsing

variable {arguments : List Bytes} {request : Request}

theorem asks_iff :
    Asks arguments request ↔ State.start.steps arguments = .error (.asked request) := by
  rw [steps_eq_error_iff]
  constructor
  · rintro ⟨before, argument, after, held, flag, split, plain, spelled, requested, fits⟩
    obtain ⟨state, options, read, settles⟩ := tracks_start.exists_steps fits.of_append
    have idle := awaits_of_settle settles
    have opened := (tracks_start.steps_escaped read).2 ⟨rfl, plain⟩
    exact ⟨before, argument, after, state, split, read,
      (tracks_parts read idle).step_asks idle opened spelled requested fits⟩
  · rintro ⟨before, argument, after, state, split, read, stops⟩
    obtain ⟨_, tracks, _⟩ := tracks_start.steps read
    obtain ⟨opened, idle, _⟩ := tracks.step_asked stops
    obtain ⟨_, _, held, flag, spelled, requested, options, describes⟩ :=
      (tracks_parts read idle).step_asked stops
    have plain := ((tracks_start.steps_escaped read).1 opened).2
    exact ⟨before, argument, after, held, flag, split, plain, spelled, requested, describes.fits⟩

theorem parse_of_asks (asks : Asks arguments request) : parse arguments = .ok request := by
  rw [parse, asks_iff.1 asks]

theorem asks_of_parse (parsed : parse arguments = .ok request)
    (noRun : ∀ options, request ≠ .run options) : Asks arguments request := by
  unfold parse at parsed
  split at parsed
  next asked stopped =>
    cases parsed
    exact asks_iff.2 stopped
  · cases parsed
  · split at parsed
    next options _ =>
      cases parsed
      exact absurd rfl (noRun options)
    · cases parsed

/-- A command line that is in order asks for nothing else. -/
theorem Fits.not_asks (fits : Fits (parts arguments)) : ¬ Asks arguments request := by
  intro asks
  obtain ⟨options, accepted⟩ := exists_run_iff_fits.2 fits
  rw [parse_of_asks asks, Except.ok.injEq] at accepted
  subst accepted
  exact steps_not_asked_run (asks_iff.1 asks)

/-- A command line is refused if it is neither in order nor asks for an answer. -/
theorem exists_error_iff :
    (∃ error, parse arguments = .error error) ↔
      ¬ Fits (parts arguments) ∧ ∀ request, ¬ Asks arguments request := by
  constructor
  · rintro ⟨error, refused⟩
    constructor
    · intro fits
      obtain ⟨options, accepted⟩ := exists_run_iff_fits.2 fits
      rw [refused] at accepted
      cases accepted
    · intro request asks
      rw [parse_of_asks asks] at refused
      cases refused
  · rintro ⟨unfit, silent⟩
    cases parsed : parse arguments with
    | error error => exact ⟨error, rfl⟩
    | ok request =>
        exfalso
        by_cases run : ∃ options, request = .run options
        · obtain ⟨options, rfl⟩ := run
          exact unfit (exists_run_iff_fits.1 ⟨options, parsed⟩)
        · exact silent request (asks_of_parse parsed (not_exists.1 run))

/-- What follows the flag does not matter, what precedes it does. -/
example :
    Asks [Utf8.ofString "-vV", Utf8.ofString "--nothing"] .version ∧
      ¬ Fits (parts [Utf8.ofString "--nothing", Utf8.ofString "-vV"]) ∧
      ∀ request, ¬ Asks [Utf8.ofString "--nothing", Utf8.ofString "-vV"] request :=
  ⟨asks_iff.2 rfl, exists_error_iff.1 ⟨_, rfl⟩⟩

end Parsing

end RuleDigest.CommandLine

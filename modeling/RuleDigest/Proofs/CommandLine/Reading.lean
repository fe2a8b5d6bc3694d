import RuleDigest.Proofs.CommandLine.Parts

/-!
# Reading a command line

The invariant of the reading is that the settled options describe the parts read so far,
but for those of the pending argument.  What is settled at the end therefore describes the
whole command line.
-/

namespace RuleDigest.CommandLine

/-- The parts whose values are not checked yet. -/
def Pending.parts : Pending → List Part
  | .nothing => []
  | .rulesDir none => []
  | .rulesDir (some value) => [.rulesDir value]
  | .statistic value => [.positional value]
  | .resultsDir value => [.positional value]
  | .extra values => values.map .positional

/-- A pending argument is the one that comes after so many positional ones. -/
def Pending.Follows : Pending → Nat → Prop
  | .statistic _, count => count = 0
  | .resultsDir _, count => count = 1
  | .extra _, count => 2 ≤ count
  | _, _ => True

/-! ## Settling -/

section Settling

variable {options next : Options} {settled : List Part}

theorem describes_none : Describes .none [] where
  known := by simp
  statistic := rfl
  resultsDir := rfl
  extra := rfl
  rulesDir := rfl
  given := by simp [Options.none]
  flags := .refl []

theorem Describes.settle_rulesDir {value : Bytes} (describes : Describes options settled)
    (settles : options.settle (.rulesDir (some value)) = .ok next) :
    Describes next (settled ++ [.rulesDir value]) := by
  obtain ⟨known, statistic, resultsDir, extra, rulesDir, given, flags⟩ := describes
  simp only [Options.settle] at settles
  split at settles
  · cases settles
  next unset =>
    split at settles
    · cases settles
    next filled =>
      cases settles
      have vacant : options.rulesDir? = none := by simpa using unset
      rw [vacant] at rulesDir given
      refine ⟨?_, ?_, ?_, ?_, ?_, ?_, ?_⟩
      · simp [known]
      · simpa using statistic
      · simpa using resultsDir
      · simpa using extra
      · simp [← rulesDir]
      · intro other membership
        rcases List.mem_append.1 membership with before | last
        · exact given other (List.mem_append_left _ before)
        · simpa [List.mem_singleton.1 last] using filled
      · simpa [Options.flags] using flags

theorem Describes.settle_statistic {value : Bytes} (describes : Describes options settled)
    (first : positionals settled = [])
    (settles : options.settle (.statistic value) = .ok next) :
    Describes next (settled ++ [.positional value]) := by
  obtain ⟨known, statistic, resultsDir, extra, rulesDir, given, flags⟩ := describes
  simp only [Options.settle] at settles
  split at settles
  next taken decoded =>
    cases settles
    rw [first] at resultsDir extra
    refine ⟨?_, ?_, ?_, ?_, ?_, given, ?_⟩
    · simp [known]
    · simp [first, Utf8.decode?_eq_some_iff.1 decoded]
    · simpa [first] using resultsDir
    · simpa [first] using extra
    · simpa using rulesDir
    · simpa [Options.flags] using flags
  · cases settles

theorem Describes.settle_resultsDir {value : Bytes} (describes : Describes options settled)
    (second : (positionals settled).length = 1)
    (settles : options.settle (.resultsDir value) = .ok next) :
    Describes next (settled ++ [.positional value]) := by
  obtain ⟨known, statistic, resultsDir, extra, rulesDir, given, flags⟩ := describes
  obtain ⟨only, first⟩ := List.length_eq_one_iff.1 second
  simp only [Options.settle] at settles
  split at settles
  · cases settles
  next filled =>
    cases settles
    rw [first] at statistic resultsDir extra
    refine ⟨?_, ?_, ?_, ?_, ?_, ?_, ?_⟩
    · simp [known]
    · simpa [first] using statistic
    · simp [first]
    · simpa [first] using extra
    · simpa using rulesDir
    · intro other membership
      rcases List.mem_append.1 membership with before | last
      · simpa [List.mem_singleton.1 before] using filled
      · exact given other (List.mem_append_right _ last)
    · simpa [Options.flags] using flags

/-- Further positional arguments are settled exactly if all of them are texts. -/
theorem settle_extra_eq_ok_iff {values : List Bytes} :
    options.settle (.extra values) = .ok next ↔
      ∃ texts : List Text, values = texts.map Utf8.encode ∧
        next = { options with extra := options.extra ++ texts } := by
  cases decoded : values.mapM Utf8.decode? with
  | none =>
      simp only [Options.settle, decoded, reduceCtorEq, false_iff]
      rintro ⟨texts, encoded, _⟩
      rw [Utf8.mapM_decode?_eq_some_iff.2 encoded] at decoded
      cases decoded
  | some texts =>
      simp only [Options.settle, decoded, Except.ok.injEq]
      constructor
      · rintro rfl
        exact ⟨texts, Utf8.mapM_decode?_eq_some_iff.1 decoded, rfl⟩
      · rintro ⟨others, encoded, rfl⟩
        rw [Utf8.mapM_decode?_eq_some_iff.2 encoded, Option.some_inj] at decoded
        rw [decoded]

theorem Describes.settle_extra {values : List Bytes} (describes : Describes options settled)
    (later : 2 ≤ (positionals settled).length)
    (settles : options.settle (.extra values) = .ok next) :
    Describes next (settled ++ values.map .positional) := by
  obtain ⟨known, statistic, resultsDir, extra, rulesDir, given, flags⟩ := describes
  obtain ⟨texts, encoded, rfl⟩ := settle_extra_eq_ok_iff.1 settles
  refine ⟨?_, ?_, ?_, ?_, ?_, given, ?_⟩
  · simp [known]
  · rw [positionals_append, List.getElem?_append_left (by omega)]
    exact statistic
  · rw [positionals_append, List.getElem?_append_left (by omega)]
    exact resultsDir
  · rw [positionals_append, List.drop_append_of_le_length later, List.map_append, extra,
      positionals_map_positional, encoded]
  · simpa using rulesDir
  · simpa [Options.flags] using flags

/-- Settling takes the pending parts over. -/
theorem Describes.settle {pending : Pending} (describes : Describes options settled)
    (follows : pending.Follows (positionals settled).length)
    (settles : options.settle pending = .ok next) :
    Describes next (settled ++ pending.parts) := by
  cases pending with
  | nothing =>
      cases settles
      simpa [Pending.parts] using describes
  | rulesDir value? =>
      cases value? with
      | none => cases settles
      | some value => exact describes.settle_rulesDir settles
  | statistic value =>
      exact describes.settle_statistic (List.eq_nil_of_length_eq_zero follows) settles
  | resultsDir value => exact describes.settle_resultsDir follows settles
  | extra values => exact describes.settle_extra follows settles

theorem switches_header (verbose json : Bool) :
    (switches true verbose json).Perm (switches false verbose json ++ [.header]) := by
  revert verbose json
  decide

theorem switches_verbose (header json : Bool) :
    (switches header true json).Perm (switches header false json ++ [.verbose]) := by
  revert header json
  decide

theorem switches_json (header verbose : Bool) :
    (switches header verbose true).Perm (switches header verbose false ++ [.json]) := by
  revert header verbose
  decide

/-- Turning a flag on adds it to the flags and changes nothing else. -/
theorem turnOn_eq_ok {flag : Flag} (turns : State.turnOn options flag = .ok next) :
    next = { options with header := next.header, verbose := next.verbose, json := next.json } ∧
      next.flags.Perm (options.flags ++ [flag]) := by
  obtain ⟨statistic?, resultsDir?, extra, rulesDir?, header, verbose, json⟩ := options
  cases flag with
  | header =>
      cases header with
      | true => cases turns
      | false =>
          cases turns
          exact ⟨rfl, switches_header verbose json⟩
  | verbose =>
      cases verbose with
      | true => cases turns
      | false =>
          cases turns
          exact ⟨rfl, switches_verbose header json⟩
  | json =>
      cases json with
      | true => cases turns
      | false =>
          cases turns
          exact ⟨rfl, switches_json header verbose⟩
  | help full => cases turns
  | version => cases turns

theorem Describes.turnOn {flag : Flag} (describes : Describes options settled)
    (turns : State.turnOn options flag = .ok next) : Describes next (settled ++ [.flag flag]) := by
  obtain ⟨same, added⟩ := turnOn_eq_ok turns
  obtain ⟨known, statistic, resultsDir, extra, rulesDir, given, flags⟩ := describes
  rw [same]
  refine ⟨?_, ?_, ?_, ?_, ?_, given, ?_⟩
  · simp [known]
  · simpa using statistic
  · simpa using resultsDir
  · simpa using extra
  · simpa using rulesDir
  · rw [← same, flags_append, flags_singleton]
    exact added.trans (flags.append_right [flag])

end Settling

/-! ## The invariant -/

/-- The parts read so far are those that the settled options describe and, after them,
those of the pending argument. -/
def Tracks (state : State) (taken : List Part) : Prop :=
  ∃ settled, taken = settled ++ state.pending.parts ∧ Describes state.options settled ∧
    state.pending.Follows (positionals settled).length ∧
    state.positionals = (positionals taken).length

/-- An option awaits its value. -/
def State.awaits (state : State) : Bool :=
  match state.pending with
  | .rulesDir none => true
  | _ => false

/-- The parts of the arguments that follow. -/
def State.partsAfter (state : State) (arguments : List Bytes) : List Part :=
  if state.escaped then unserved state.awaits ++ arguments.map .positional
  else partsFrom state.awaits arguments

theorem Word.names_ne_nil {argument : Bytes} {names : List (Option Char)}
    (word : Word.ofBytes argument = .short names) : names ≠ [] := by
  unfold Word.ofBytes at word
  split at word
  next first second rest =>
    split at word
    · split at word
      · cases word
      · cases word
    · split at word
      · cases word
        exact Utf8.items_ne_nil second rest
      · cases word
  · cases word

/-- Reading adds parts and leads from a state that awaits no value to another one. -/
structure Adds (state next : State) (taken added : List Part) : Prop where
  idle : state.awaits = false
  ready : next.awaits = false
  escaped : next.escaped = state.escaped
  tracks : Tracks next (taken ++ added)

section Invariant

variable {state next : State} {taken added : List Part}

theorem tracks_start : Tracks .start [] :=
  ⟨[], rfl, describes_none, trivial, rfl⟩

theorem Tracks.describes (tracks : Tracks state taken) {options : Options}
    (settles : state.options.settle state.pending = .ok options) : Describes options taken := by
  obtain ⟨settled, rfl, describes, follows, _⟩ := tracks
  exact describes.settle follows settles

theorem settle_eq_ok_iff :
    state.settle = .ok next ↔ ∃ options, state.options.settle state.pending = .ok options ∧
      next = { state with options, pending := .nothing } := by
  unfold State.settle
  cases state.options.settle state.pending with
  | error error => simp
  | ok options => simp [eq_comm]

theorem await_eq_ok_iff {pending : Pending} :
    state.await pending = .ok next ↔ ∃ options, state.options.settle state.pending = .ok options ∧
      next = { state with options, pending } := by
  unfold State.await State.settle
  cases state.options.settle state.pending with
  | error error => simp [Except.map]
  | ok options => simp [Except.map, eq_comm]

/-- What can be settled awaits no value. -/
theorem awaits_of_settle {options : Options}
    (settles : state.options.settle state.pending = .ok options) : state.awaits = false := by
  unfold State.awaits
  cases waiting : state.pending with
  | rulesDir value? =>
      cases value? with
      | none =>
          rw [waiting] at settles
          cases settles
      | some value => rfl
  | _ => rfl

theorem Tracks.count (tracks : Tracks state taken) :
    state.positionals = (positionals taken).length := by
  obtain ⟨settled, _, _, _, count⟩ := tracks
  exact count

theorem Tracks.await {pending : Pending} {count : Nat} (tracks : Tracks state taken)
    (follows : pending.Follows (positionals taken).length)
    (counted : count = (positionals (taken ++ pending.parts)).length)
    (awaited : State.await { state with positionals := count } pending = .ok next) :
    state.awaits = false ∧ next.pending = pending ∧ next.escaped = state.escaped ∧
      Tracks next (taken ++ pending.parts) := by
  obtain ⟨options, settles, rfl⟩ := await_eq_ok_iff.1 awaited
  exact ⟨awaits_of_settle settles, rfl, rfl, taken, rfl, tracks.describes settles, follows, counted⟩

theorem Tracks.adds_of_await {pending : Pending} {count : Nat} (tracks : Tracks state taken)
    (served : pending ≠ .rulesDir none)
    (follows : pending.Follows (positionals taken).length)
    (counted : count = (positionals (taken ++ pending.parts)).length)
    (awaited : State.await { state with positionals := count } pending = .ok next) :
    Adds state next taken pending.parts := by
  obtain ⟨idle, waiting, escaped, nextTracks⟩ := tracks.await follows counted awaited
  refine ⟨idle, ?_, escaped, nextTracks⟩
  unfold State.awaits
  rw [waiting]
  split
  · exact absurd rfl served
  · rfl

theorem Tracks.position {value : Bytes} (tracks : Tracks state taken)
    (positioned : state.position value = .ok next) :
    Adds state next taken [.positional value] := by
  have count := tracks.count
  have counted : state.positionals + 1 = (positionals (taken ++ [.positional value])).length := by
    simp [count]
  unfold State.position at positioned
  dsimp only at positioned
  split at positioned
  next none =>
    have follows : (Pending.statistic value).Follows (positionals taken).length := by
      rw [Pending.Follows, ← count, none]
    exact tracks.adds_of_await (by simp) follows counted positioned
  next one =>
    have follows : (Pending.resultsDir value).Follows (positionals taken).length := by
      rw [Pending.Follows, ← count, one]
    exact tracks.adds_of_await (by simp) follows counted positioned
  next values waiting _ _ =>
    -- Nothing is settled here: the value joins those that wait already.
    cases positioned
    obtain ⟨settled, split, describes, follows, _⟩ := tracks
    rw [waiting] at split follows
    refine ⟨by rw [State.awaits, waiting], rfl, rfl, settled, ?_, describes, follows, counted⟩
    simp [split, Pending.parts]
  next notNone notOne _ =>
    have follows : (Pending.extra [value]).Follows (positionals taken).length := by
      have some : state.positionals ≠ 0 := notNone
      have several : state.positionals ≠ 1 := notOne
      rw [Pending.Follows, ← count]
      omega
    exact tracks.adds_of_await (by simp) follows counted positioned

theorem Tracks.raise {flag : Flag} (tracks : Tracks state taken)
    (raised : state.raise flag = .ok next) : Adds state next taken [.flag flag] := by
  have count := tracks.count
  simp only [State.raise, bind, Except.bind] at raised
  split at raised
  · cases raised
  next settled settledFrom =>
    obtain ⟨options, settles, rfl⟩ := settle_eq_ok_iff.1 settledFrom
    split at raised
    · cases raised
    next turned turns =>
      cases raised
      have describes := (tracks.describes settles).turnOn turns
      refine ⟨awaits_of_settle settles, rfl, rfl, _, ?_, describes, trivial, ?_⟩
      · simp [Pending.parts]
      · simp [count]

theorem Adds.trans {later : State} {more : List Part} (first : Adds state next taken added)
    (second : Adds next later (taken ++ added) more) : Adds state later taken (added ++ more) where
  idle := first.idle
  ready := second.ready
  escaped := second.escaped.trans first.escaped
  tracks := by
    rw [← List.append_assoc]
    exact second.tracks

theorem Tracks.raiseAll {names : List (Option Char)} (some : names ≠ [])
    (tracks : Tracks state taken) (raised : state.raiseAll names = .ok next) :
    Adds state next taken (names.map Part.ofShort) := by
  induction names generalizing state taken with
  | nil => exact absurd rfl some
  | cons name? rest inductionHypothesis =>
      cases name? with
      | none => cases raised
      | some name =>
          simp only [State.raiseAll] at raised
          split at raised
          next flag named =>
            split at raised
            next middle middleRaised =>
              have first : Adds state middle taken [Part.ofShort (.some name)] := by
                simpa [Part.ofShort, named] using tracks.raise middleRaised
              by_cases last : rest = []
              · subst last
                cases raised
                exact first
              · exact first.trans (inductionHypothesis last first.tracks raised)
            · cases raised
          · cases raised

theorem Tracks.long {argument name : Bytes} {value? : Option Bytes} (tracks : Tracks state taken)
    (word : Word.ofBytes argument = .long name value?)
    (read : state.long name value? = .ok next) :
    state.awaits = false ∧ next.escaped = state.escaped ∧
      ∃ added, Tracks next (taken ++ added) ∧
        ∀ rest, partsFrom false (argument :: rest) = added ++ partsFrom next.awaits rest := by
  unfold State.long at read
  split at read
  next chosen =>
    cases value? with
    | none =>
        have follows : (Pending.rulesDir none).Follows (positionals taken).length := trivial
        obtain ⟨idle, waiting, escaped, nextTracks⟩ :=
          tracks.await follows (by simp [Pending.parts, tracks.count]) read
        refine ⟨idle, escaped, [], nextTracks, fun rest => ?_⟩
        simp [partsFrom, word, chosen, unserved, State.awaits, waiting]
    | some value =>
        simp only [bind, Except.bind] at read
        split at read
        · cases read
        next middle awaited =>
          have follows : (Pending.rulesDir value).Follows (positionals taken).length := trivial
          obtain ⟨idle, waiting, escaped, middleTracks⟩ :=
            tracks.await follows (by simp [Pending.parts, tracks.count]) awaited
          obtain ⟨options, settles, rfl⟩ := settle_eq_ok_iff.1 read
          have describes := middleTracks.describes settles
          refine ⟨idle, escaped, [.rulesDir value], ?_, fun rest => ?_⟩
          · exact ⟨_, (List.append_nil _).symm, describes, trivial, middleTracks.count⟩
          · simp [partsFrom, word, chosen, unserved, State.awaits]
  next other =>
    split at read
    next flag named =>
      have added := tracks.raise read
      refine ⟨added.idle, added.escaped, _, added.tracks, fun rest => ?_⟩
      simp [partsFrom, word, other, unserved, Part.ofLong, named, added.ready]
    · cases read
    · cases read

/-- What is read of an argument are its parts. -/
theorem Tracks.step {argument : Bytes} (tracks : Tracks state taken)
    (stepped : state.step argument = .ok next) :
    ∃ added, Tracks next (taken ++ added) ∧
      ∀ rest, state.partsAfter (argument :: rest) = added ++ next.partsAfter rest := by
  unfold State.step at stepped
  split at stepped
  next escaped =>
    have added := tracks.position stepped
    refine ⟨_, added.tracks, fun rest => ?_⟩
    simp [State.partsAfter, escaped, added.escaped, added.idle, added.ready, unserved]
  next unescaped =>
    have opened : state.escaped = false := by simpa using unescaped
    split at stepped
    next word =>
      cases stepped
      refine ⟨[], ?_, fun rest => ?_⟩
      · rw [List.append_nil]
        exact tracks
      · simp [State.partsAfter, opened, partsFrom, word, State.awaits]
    next name value? word =>
      obtain ⟨idle, escaped, added, nextTracks, same⟩ := tracks.long word stepped
      refine ⟨added, nextTracks, fun rest => ?_⟩
      simp [State.partsAfter, opened, escaped, idle, same]
    next names word =>
      have added := tracks.raiseAll (Word.names_ne_nil word) stepped
      refine ⟨_, added.tracks, fun rest => ?_⟩
      simp [State.partsAfter, opened, added.escaped, partsFrom, word, added.idle, added.ready,
        unserved]
    next value word =>
      split at stepped
      next waiting =>
        cases stepped
        obtain ⟨settled, split, describes, follows, count⟩ := tracks
        refine ⟨[.rulesDir value], ⟨settled, ?_, describes, trivial, ?_⟩, fun rest => ?_⟩
        · simp [split, waiting, Pending.parts]
        · simp [count]
        · simp [State.partsAfter, opened, partsFrom, word, State.awaits, waiting]
      next notWaiting =>
        have added := tracks.position stepped
        refine ⟨_, added.tracks, fun rest => ?_⟩
        simp [State.partsAfter, opened, added.escaped, partsFrom, word, added.idle, added.ready]

/-- What is read of arguments are their parts. -/
theorem Tracks.steps {arguments : List Bytes} (tracks : Tracks state taken)
    (read : state.steps arguments = .ok next) :
    ∃ added, Tracks next (taken ++ added) ∧
      state.partsAfter arguments = added ++ next.partsAfter [] := by
  induction arguments generalizing state taken with
  | nil =>
      cases read
      exact ⟨[], by simpa using tracks, rfl⟩
  | cons argument rest inductionHypothesis =>
      simp only [State.steps] at read
      split at read
      next middle stepped =>
        obtain ⟨first, middleTracks, firstSame⟩ := tracks.step stepped
        obtain ⟨later, nextTracks, laterSame⟩ := inductionHypothesis middleTracks read
        refine ⟨first ++ later, by simpa using nextTracks, ?_⟩
        rw [firstSame, laterSame, List.append_assoc]
      · cases read

end Invariant

end RuleDigest.CommandLine

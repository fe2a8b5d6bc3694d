import RuleDigest.Proofs.CommandLine.Requests

/-!
# Which command lines are accepted

A command line is accepted exactly when its parts fit, and whether they fit can
be told from the positional arguments, the rules directories and the flags alone.
How these three are interleaved does not matter.

The reading goes on as long as what is read so far fits, by the same invariant
that says what is read.  Parts that fit still do when some at the end are left out.
-/

namespace RuleDigest.CommandLine

/-- Parts that a command line may consist of. -/
structure Fits (parts : List Part) : Prop where
  known : .stray ∉ parts
  texts : ∀ index value, (positionals parts)[index]? = some value → index ≠ 1 →
    ∃ text, value = Utf8.encode text
  resultsDir : (positionals parts)[1]? ≠ some []
  single : (rulesDirs parts).length ≤ 1
  named : [] ∉ rulesDirs parts
  switches : ∀ flag ∈ flags parts, flag.request? = none
  once : (flags parts).Nodup

theorem Fits.of_append {first second : List Part} (fits : Fits (first ++ second)) : Fits first := by
  obtain ⟨known, texts, resultsDir, single, named, switches, once⟩ := fits
  rw [positionals_append] at texts resultsDir
  rw [rulesDirs_append] at single named
  rw [flags_append] at switches once
  have earlier {index : Nat} {value : Bytes} (found : (positionals first)[index]? = some value) :
      (positionals first ++ positionals second)[index]? = some value := by
    rw [List.getElem?_append_left (List.getElem?_eq_some_iff.1 found).1, found]
  refine ⟨?_, ?_, ?_, ?_, ?_, ?_, ?_⟩
  · intro membership
    exact known (List.mem_append_left second membership)
  · intro index value found
    exact texts index value (earlier found)
  · intro found
    exact resultsDir (earlier found)
  · rw [List.length_append] at single
    omega
  · intro membership
    exact named (List.mem_append_left _ membership)
  · intro flag membership
    exact switches flag (List.mem_append_left _ membership)
  · exact (List.nodup_append.1 once).1

theorem Fits.idle {taken more : List Part} {awaits : Bool}
    (fits : Fits (taken ++ (unserved awaits ++ more))) : awaits = false := by
  cases awaits with
  | false => rfl
  | true =>
      have stray : .stray ∈ taken ++ (unserved true ++ more) := by simp [unserved]
      exact absurd stray fits.known

theorem exists_map_encode {values : List Bytes}
    (texts : ∀ value ∈ values, ∃ text, value = Utf8.encode text) :
    ∃ texts : List Text, values = texts.map Utf8.encode := by
  induction values with
  | nil => exact ⟨[], rfl⟩
  | cons value rest inductionHypothesis =>
      obtain ⟨⟨text, rfl⟩, restTexts⟩ := List.forall_mem_cons.1 texts
      obtain ⟨others, rfl⟩ := inductionHypothesis restTexts
      exact ⟨text :: others, rfl⟩

section Options

variable {options : Options} {settled : List Part}

theorem header_mem_flags : .header ∈ options.flags ↔ options.header = true := by
  simp [Options.flags, CommandLine.switches]

theorem verbose_mem_flags : .verbose ∈ options.flags ↔ options.verbose = true := by
  simp [Options.flags, CommandLine.switches]

theorem json_mem_flags : .json ∈ options.flags ↔ options.json = true := by
  simp [Options.flags, CommandLine.switches]

theorem request?_of_mem_flags {flag : Flag} (on : flag ∈ options.flags) : flag.request? = none := by
  cases flag with
  | help full => simp [Options.flags, CommandLine.switches] at on
  | version => simp [Options.flags, CommandLine.switches] at on
  | _ => rfl

theorem Options.flags_nodup (options : Options) : options.flags.Nodup := by
  have all : ∀ header verbose json, (CommandLine.switches header verbose json).Nodup := by decide
  exact all options.header options.verbose options.json

/-- A flag can be turned on unless it asks for something else or is on already. -/
theorem Describes.exists_turnOn {flag : Flag} (describes : Describes options settled)
    (fits : Fits (settled ++ [.flag flag])) : ∃ next, State.turnOn options flag = .ok next := by
  have once := fits.once
  have quiet := fits.switches flag
  rw [flags_append, flags_singleton] at once quiet
  have off : flag ∉ options.flags := by
    rw [describes.flags.mem_iff]
    intro on
    exact (List.nodup_append.1 once).2.2 flag on flag (by simp) rfl
  cases flag with
  | header =>
      rw [header_mem_flags] at off
      exact ⟨_, if_neg off⟩
  | verbose =>
      rw [verbose_mem_flags] at off
      exact ⟨_, if_neg off⟩
  | json =>
      rw [json_mem_flags] at off
      exact ⟨_, if_neg off⟩
  | help full => cases quiet (by simp)
  | version => cases quiet (by simp)

theorem Describes.fits (describes : Describes options settled) : Fits settled := by
  obtain ⟨known, statistic, resultsDir, extra, rulesDir, given, flags⟩ := describes
  refine ⟨known, ?_, ?_, ?_, ?_, ?_, ?_⟩
  · intro index value found notSecond
    rcases Nat.lt_or_ge index 2 with first | later
    · obtain rfl : index = 0 := by omega
      rw [← statistic] at found
      obtain ⟨text, _, rfl⟩ := Option.map_eq_some_iff.1 found
      exact ⟨text, rfl⟩
    · have membership : value ∈ (positionals settled).drop 2 := by
        rw [List.mem_iff_getElem?]
        refine ⟨index - 2, ?_⟩
        rw [List.getElem?_drop, Nat.add_sub_cancel' later, found]
      rw [← extra] at membership
      obtain ⟨text, _, rfl⟩ := List.mem_map.1 membership
      exact ⟨text, rfl⟩
  · rw [← resultsDir]
    intro empty
    exact given [] (List.mem_append_left _ (by simp [empty])) rfl
  · rw [← rulesDir]
    cases options.rulesDir? <;> simp
  · rw [← rulesDir]
    intro membership
    exact given [] (List.mem_append_right _ membership) rfl
  · intro flag membership
    exact request?_of_mem_flags (flags.mem_iff.2 membership)
  · exact flags.nodup_iff.1 options.flags_nodup

end Options

section Progress

variable {state next : State} {taken : List Part}

/-- What waits can be settled as long as everything fits. -/
theorem Tracks.exists_settled (tracks : Tracks state taken) (fits : Fits taken)
    (idle : state.awaits = false) :
    ∃ options, state.options.settle state.pending = .ok options := by
  obtain ⟨settled, split, describes, follows, _⟩ := tracks
  cases waiting : state.pending with
  | nothing => exact ⟨_, rfl⟩
  | rulesDir value? =>
      cases value? with
      | none =>
          rw [State.awaits, waiting] at idle
          cases idle
      | some value =>
          have single := fits.single
          have named := fits.named
          simp only [split, waiting, Pending.parts, rulesDirs_append, rulesDirs_singleton,
            Part.rulesDir?, ← describes.rulesDir] at single named
          have vacant : state.options.rulesDir? = none := by
            cases chosen : state.options.rulesDir? with
            | none => rfl
            | some other => simp [chosen] at single
          have filled : value ≠ [] := by
            rintro rfl
            simp at named
          refine ⟨{ state.options with rulesDir? := some value }, ?_⟩
          simp only [Options.settle, vacant, Option.isSome_none, Bool.false_eq_true, if_false,
            List.isEmpty_iff, filled]
  | statistic value =>
      rw [waiting] at split follows
      have first : (positionals taken)[0]? = some value := by
        have none : positionals settled = [] := List.eq_nil_of_length_eq_zero follows
        simp [split, Pending.parts, none]
      obtain ⟨text, rfl⟩ := fits.texts 0 value first (by decide)
      have decoded := Utf8.decode?_eq_some_iff.2 (rfl : Utf8.encode text = Utf8.encode text)
      refine ⟨{ state.options with statistic? := some text }, ?_⟩
      simp only [Options.settle, decoded]
  | resultsDir value =>
      rw [waiting] at split follows
      have second : (positionals taken)[1]? = some value := by
        have one : (positionals settled).length = 1 := follows
        simp [split, Pending.parts, one]
      have filled : value ≠ [] := by
        rintro rfl
        exact fits.resultsDir second
      refine ⟨{ state.options with resultsDir? := some value }, ?_⟩
      simp only [Options.settle, List.isEmpty_iff, filled, if_false]
  | extra values =>
      rw [waiting] at split follows
      have several : 2 ≤ (positionals settled).length := follows
      have texts : ∀ value ∈ values, ∃ text, value = Utf8.encode text := by
        intro value membership
        obtain ⟨index, found⟩ := List.mem_iff_getElem?.1 membership
        apply fits.texts ((positionals settled).length + index) value
        · simp [split, Pending.parts, List.getElem?_append_right, found]
        · omega
      obtain ⟨texts, encoded⟩ := exists_map_encode texts
      exact ⟨_, settle_extra_eq_ok_iff.2 ⟨texts, encoded, rfl⟩⟩

theorem Tracks.exists_await (tracks : Tracks state taken) (fits : Fits taken)
    (idle : state.awaits = false) (count : Nat) (pending : Pending) :
    ∃ next, State.await { state with positionals := count } pending = .ok next := by
  obtain ⟨options, settles⟩ := tracks.exists_settled fits idle
  exact ⟨_, await_eq_ok_iff.2 ⟨options, settles, rfl⟩⟩

theorem Tracks.exists_position (tracks : Tracks state taken) (fits : Fits taken)
    (idle : state.awaits = false) (value : Bytes) : ∃ next, state.position value = .ok next := by
  unfold State.position
  dsimp only
  split
  · exact tracks.exists_await fits idle _ _
  · exact tracks.exists_await fits idle _ _
  · exact ⟨_, rfl⟩
  · exact tracks.exists_await fits idle _ _

theorem Tracks.exists_raise {flag : Flag} (tracks : Tracks state taken)
    (fits : Fits (taken ++ [.flag flag])) (idle : state.awaits = false) :
    ∃ next, state.raise flag = .ok next := by
  obtain ⟨options, settles⟩ := tracks.exists_settled fits.of_append idle
  obtain ⟨turned, turns⟩ := (tracks.describes settles).exists_turnOn fits
  have settled := settle_eq_ok_iff.2 ⟨options, settles, rfl⟩
  simp only [State.raise, bind, Except.bind, settled, turns]
  exact ⟨_, rfl⟩

theorem Tracks.exists_raiseAll {names : List (Option Char)} (tracks : Tracks state taken)
    (fits : Fits (taken ++ names.map Part.ofShort)) (idle : state.awaits = false) :
    ∃ next, state.raiseAll names = .ok next := by
  induction names generalizing state taken with
  | nil => exact ⟨state, rfl⟩
  | cons name? rest inductionHypothesis =>
      rw [List.map_cons, List.append_cons] at fits
      have known : Part.ofShort name? ≠ .stray := by
        intro stray
        apply fits.known
        simp [stray]
      cases named : name?.bind Flag.ofShort? with
      | none => simp [Part.ofShort, named] at known
      | some flag =>
          have part : Part.ofShort name? = .flag flag := by simp [Part.ofShort, named]
          rw [part] at fits
          obtain ⟨middle, raised⟩ := tracks.exists_raise fits.of_append idle
          have added := tracks.raise raised
          obtain ⟨name, rfl, short⟩ := Option.bind_eq_some_iff.1 named
          simp only [State.raiseAll, short, raised]
          exact inductionHypothesis added.tracks fits added.ready

theorem Tracks.exists_long {argument name : Bytes} {value? : Option Bytes} {rest : List Bytes}
    (tracks : Tracks state taken) (word : Word.ofBytes argument = .long name value?)
    (fits : Fits (taken ++ partsFrom state.awaits (argument :: rest))) :
    ∃ next, state.long name value? = .ok next := by
  simp only [partsFrom, word] at fits
  have idle := fits.idle
  simp only [idle, unserved, Bool.false_eq_true, if_false, List.nil_append] at fits
  unfold State.long
  split
  next chosen =>
    cases value? with
    | none => exact tracks.exists_await fits.of_append idle _ _
    | some value =>
        simp only [chosen, if_true] at fits
        rw [List.append_cons] at fits
        have follows : (Pending.rulesDir value).Follows (positionals taken).length := trivial
        obtain ⟨middle, awaited⟩ :=
          tracks.exists_await fits.of_append.of_append idle state.positionals (.rulesDir value)
        obtain ⟨_, waiting, _, middleTracks⟩ :=
          tracks.await follows (by simp [Pending.parts, tracks.count]) awaited
        have ready : middle.awaits = false := by rw [State.awaits, waiting]
        obtain ⟨options, settles⟩ := middleTracks.exists_settled fits.of_append ready
        simp only [bind, Except.bind, awaited]
        exact ⟨_, settle_eq_ok_iff.2 ⟨options, settles, rfl⟩⟩
  next other =>
    simp only [other, if_false] at fits
    rw [List.append_cons] at fits
    have known : Part.ofLong name value? ≠ .stray := by
      intro stray
      apply fits.known
      simp [stray]
    split
    next flag named =>
      have part : Part.ofLong name none = .flag flag := by simp [Part.ofLong, named]
      rw [part] at fits
      exact tracks.exists_raise fits.of_append idle
    next named => exact absurd (by simp [Part.ofLong, named]) known
    next named => exact absurd (by simp [Part.ofLong, named]) known

/-- An argument is read as long as its parts fit. -/
theorem Tracks.exists_step {argument : Bytes} {rest : List Bytes} (tracks : Tracks state taken)
    (fits : Fits (taken ++ state.partsAfter (argument :: rest))) :
    ∃ next, state.step argument = .ok next := by
  unfold State.step
  cases escaped : state.escaped with
  | true =>
      simp only [State.partsAfter, escaped, if_true] at fits
      exact tracks.exists_position fits.of_append fits.idle argument
  | false =>
      simp only [State.partsAfter, escaped, Bool.false_eq_true, if_false] at fits ⊢
      cases word : Word.ofBytes argument with
      | escape => exact ⟨_, rfl⟩
      | long name value? => exact tracks.exists_long word fits
      | short names =>
          simp only [partsFrom, word, List.append_assoc] at fits
          have idle := fits.idle
          simp only [idle, unserved, Bool.false_eq_true, if_false, List.nil_append,
            ← List.append_assoc] at fits
          exact tracks.exists_raiseAll fits.of_append idle
      | plain value =>
          cases awaits : state.awaits with
          | false =>
              dsimp only
              split
              next waiting => simp [State.awaits, waiting] at awaits
              next => exact tracks.exists_position fits.of_append awaits value
          | true =>
              have waiting : state.pending = .rulesDir none := by
                unfold State.awaits at awaits
                split at awaits
                · assumption
                · cases awaits
              simp only [waiting]
              exact ⟨_, rfl⟩

/-- Arguments are read to their end as long as their parts fit. -/
theorem Tracks.exists_steps {arguments : List Bytes} (tracks : Tracks state taken)
    (fits : Fits (taken ++ state.partsAfter arguments)) :
    ∃ next options, state.steps arguments = .ok next ∧
      next.options.settle next.pending = .ok options := by
  induction arguments generalizing state taken with
  | nil =>
      have idle : state.awaits = false := by
        unfold State.partsAfter partsFrom at fits
        split at fits
        · exact fits.idle
        · rw [← List.append_nil (unserved _)] at fits
          exact fits.idle
      obtain ⟨options, settles⟩ := tracks.exists_settled fits.of_append idle
      exact ⟨state, options, rfl, settles⟩
  | cons argument rest inductionHypothesis =>
      obtain ⟨middle, stepped⟩ := tracks.exists_step fits
      obtain ⟨added, middleTracks, same⟩ := tracks.step stepped
      rw [same, ← List.append_assoc] at fits
      obtain ⟨next, options, read, settles⟩ := inductionHypothesis middleTracks fits
      refine ⟨next, options, ?_, settles⟩
      simp only [State.steps, stepped, read]

end Progress

/-- A command line is accepted as that of a run exactly when its parts fit. -/
theorem exists_run_iff_fits {arguments : List Bytes} :
    (∃ options, parse arguments = .ok (.run options)) ↔ Fits (parts arguments) := by
  constructor
  · rintro ⟨options, accepted⟩
    exact (describes_of_parse accepted).fits
  · intro fits
    obtain ⟨state, options, read, settles⟩ := tracks_start.exists_steps fits
    refine ⟨options, ?_⟩
    simp only [parse, read, settles]

end RuleDigest.CommandLine

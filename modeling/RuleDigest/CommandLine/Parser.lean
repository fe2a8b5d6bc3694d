import RuleDigest.CommandLine.Basic

/-!
Reading the arguments of a command line from left to right.

An argument that takes a value is pending until the next one is acted on; only
then is its value checked.  An argument that is not known ends the reading
before that, and so does a request for help or for the version after it.
-/

namespace RuleDigest.CommandLine

/-- What an argument looks like. -/
inductive Word where
  /-- Two dashes alone: from here on everything is positional. -/
  | escape
  /-- Two dashes and a name, perhaps with a value after an equals sign. -/
  | long (name : Bytes) (value? : Option Bytes)
  /-- A dash and short names, with gaps where they are not UTF-8. -/
  | short (names : List (Option Char))
  /-- A value or a positional argument. -/
  | plain (value : Bytes)
  deriving DecidableEq, Repr

namespace Word

/-- The byte that marks options. -/
def dash : UInt8 := 0x2D

/-- The byte between a name and its value. -/
def equals : UInt8 := 0x3D

/-- The look of an argument.  A dash alone is a plain one. -/
def ofBytes (argument : Bytes) : Word :=
  match argument with
  | first :: second :: rest =>
      if first = dash ∧ second = dash then
        if rest.isEmpty then .escape
        else
          let (name, after) := rest.span (· != equals)
          .long name after.tail?
      else if first = dash then .short (Utf8.items (second :: rest))
      else .plain argument
  | _ => .plain argument

end Word

/-- An argument whose values are not checked yet. -/
inductive Pending where
  | nothing
  /-- The rules directory option, with its value once that has come. -/
  | rulesDir (value? : Option Bytes)
  | statistic (value : Bytes)
  | resultsDir (value : Bytes)
  | extra (values : List Bytes)
  deriving DecidableEq, Repr

/-- Where the reading stands between two arguments. -/
structure State where
  /-- What is settled. -/
  options : Options
  pending : Pending
  /-- The number of positional arguments so far. -/
  positionals : Nat
  /-- Two dashes have come, so that no option follows. -/
  escaped : Bool
  deriving DecidableEq, Repr

/-- An end of the reading before the last argument. -/
inductive Early where
  | asked (request : Request)
  | refused (error : UsageError)
  deriving DecidableEq, Repr

/-- Check the values of a pending argument and take them over. -/
def Options.settle (options : Options) : Pending → Except UsageError Options
  | .nothing => .ok options
  | .rulesDir .none => .error (.missingValue .rulesDir)
  | .rulesDir (some value) =>
      if options.rulesDir?.isSome then .error (.repeatedParameter .rulesDir)
      else if value.isEmpty then .error (.missingValue .rulesDir)
      else .ok { options with rulesDir? := some value }
  | .statistic value =>
      match Utf8.decode? value with
      | some statistic => .ok { options with statistic? := some statistic }
      | .none => .error .notUtf8
  | .resultsDir value =>
      if value.isEmpty then .error (.missingValue .resultsDir)
      else .ok { options with resultsDir? := some value }
  | .extra values =>
      match values.mapM Utf8.decode? with
      | some extra => .ok { options with extra := options.extra ++ extra }
      | .none => .error .notUtf8

namespace State

/-- Before the first argument. -/
def start : State :=
  ⟨.none, .nothing, 0, false⟩

/-- Settle the pending argument. -/
def settle (state : State) : Except Early State :=
  match state.options.settle state.pending with
  | .ok options => .ok { state with options, pending := .nothing }
  | .error error => .error (.refused error)

/-- Settle the pending argument and make another one pending. -/
def await (state : State) (pending : Pending) : Except Early State :=
  state.settle.map fun state => { state with pending }

/-- Take a positional argument.  Those beyond the second wait together. -/
def position (state : State) (value : Bytes) : Except Early State :=
  let next := { state with positionals := state.positionals + 1 }
  match state.positionals, state.pending with
  | 0, _ => next.await (.statistic value)
  | 1, _ => next.await (.resultsDir value)
  | _, .extra values => .ok { next with pending := .extra (values ++ [value]) }
  | _, _ => next.await (.extra [value])

/-- Turn a flag on that has to be off, or end with what it asks for. -/
def turnOn (options : Options) (flag : Flag) : Except Early Options :=
  match flag with
  | .header =>
      if options.header then .error (.refused (.repeatedFlag flag))
      else .ok { options with header := true }
  | .verbose =>
      if options.verbose then .error (.refused (.repeatedFlag flag))
      else .ok { options with verbose := true }
  | .json =>
      if options.json then .error (.refused (.repeatedFlag flag))
      else .ok { options with json := true }
  | .help full => .error (.asked (.help full))
  | .version => .error (.asked .version)

/-- Act on a flag. -/
def raise (state : State) (flag : Flag) : Except Early State := do
  let state ← state.settle
  let options ← turnOn state.options flag
  return { state with options }

/-- Act on short names one after the other. -/
def raiseAll (state : State) : List (Option Char) → Except Early State
  | [] => .ok state
  | some name :: rest =>
      match Flag.ofShort? name with
      | some flag =>
          match state.raise flag with
          | .ok state => raiseAll state rest
          | .error early => .error early
      | none => .error (.refused (.unexpectedArgument ['-', name]))
  | none :: rest =>
      .error (.refused (.unexpectedArgument
        ('-' :: (none :: rest).map fun item => item.getD '\uFFFD')))

def long (state : State) (name : Bytes) (value? : Option Bytes) : Except Early State :=
  if name = Utf8.ofString "rules-dir" then
    match value? with
    | none => state.await (.rulesDir none)
    | some value => do
        let state ← state.await (.rulesDir (some value))
        state.settle
  else
    match Flag.ofLong? name, value? with
    | some flag, none => state.raise flag
    | some flag, some value =>
        .error (.refused (.unexpectedValue flag (Utf8.decodeLossy value)))
    | none, _ =>
        .error (.refused (.unexpectedArgument ("--".toList ++ Utf8.decodeLossy name)))

/-- Read an argument. -/
def step (state : State) (argument : Bytes) : Except Early State :=
  if state.escaped then state.position argument
  else
    match Word.ofBytes argument with
    | .escape => .ok { state with escaped := true }
    | .long name value? => state.long name value?
    | .short names => state.raiseAll names
    | .plain value =>
        match state.pending with
        | .rulesDir none => .ok { state with pending := .rulesDir (some value) }
        | _ => state.position value

/-- Read arguments from left to right. -/
def steps (state : State) : List Bytes → Except Early State
  | [] => .ok state
  | argument :: rest =>
      match state.step argument with
      | .ok state => steps state rest
      | .error early => .error early

/-- Arguments can be read in two parts. -/
theorem steps_append (state : State) (first second : List Bytes) :
    state.steps (first ++ second) = (state.steps first).bind fun next => next.steps second := by
  induction first generalizing state with
  | nil => rfl
  | cons argument rest inductionHypothesis =>
      simp only [List.cons_append, steps]
      cases state.step argument with
      | ok next => simpa using inductionHypothesis next
      | error early => rfl

end State

/-- What a command line asks for. -/
def parse (arguments : List Bytes) : Except UsageError Request :=
  match State.start.steps arguments with
  | .error (.asked request) => .ok request
  | .error (.refused error) => .error error
  | .ok state =>
      match state.options.settle state.pending with
      | .ok options => .ok (.run options)
      | .error error => .error error

end RuleDigest.CommandLine

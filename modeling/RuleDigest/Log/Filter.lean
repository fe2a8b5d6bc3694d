import RuleDigest.Log.Event
import RuleDigest.Pattern.Reader

/-!
Which events are shown.

A specification is a list of directives, each a level for everything or for the
sources whose names begin in a certain way; of the directives that apply to a
source the longest counts.
-/

namespace RuleDigest.Log

/-- How much is shown, from nothing to everything. -/
inductive Level where
  | off
  | error
  | warn
  | info
  | debug
  | trace
  deriving DecidableEq, Repr

namespace Level

/-- The place of a level in their order. -/
def rank : Level → Nat
  | off => 0
  | error => 1
  | warn => 2
  | info => 3
  | debug => 4
  | trace => 5

def name : Level → Text
  | off => "off".toList
  | error => "error".toList
  | warn => "warn".toList
  | info => "info".toList
  | debug => "debug".toList
  | trace => "trace".toList

/-- The level with a name, in letters of any case. -/
def ofName? (text : Text) : Option Level :=
  [off, error, warn, info, debug, trace].find? fun level => level.name == text.map Char.toLower

end Level

/-- A level for the sources whose names begin with a text. -/
structure Directive where
  /-- Without a name the directive is for every source. -/
  name? : Option Text
  level : Level
  deriving DecidableEq, Repr

/-- The directives in force, and a pattern that has to occur in a message for it to
be shown. -/
structure Filter where
  directives : List Directive
  pattern? : Option Pattern
  deriving DecidableEq, Repr

/-- What means nothing in a specification. -/
inductive SpecFault where
  | part (text : Text)
  | tooManySlashes (spec : Text)
  | pattern (fault : Pattern.Fault)
  deriving DecidableEq, Repr

def SpecFault.message : SpecFault → Text
  | part text => "invalid logging spec '".toList ++ text ++ ['\'']
  | tooManySlashes spec =>
      "invalid logging spec '".toList ++ spec ++ "' (too many '/'s)".toList
  | pattern fault => "invalid regex filter - ".toList ++ fault.message

/-- A text without the blanks at its ends. -/
def trim (text : Text) : Text :=
  ((text.dropWhile isBlank).reverse.dropWhile isBlank).reverse

namespace Directive

/-- The directive that a part of a specification states.  A name alone asks for
everything, a level alone is for every source. -/
def ofPart (part : Text) : Except SpecFault Directive :=
  match part.splitOn '=' with
  | [single] =>
      match Level.ofName? single with
      | some level => .ok ⟨none, level⟩
      | none => .ok ⟨some single, .trace⟩
  | [name, value] =>
      if (trim value).isEmpty then .ok ⟨some name, .trace⟩
      else match Level.ofName? (trim value) with
        | some level => .ok ⟨some name, level⟩
        | none => .error (.part (trim value))
  | _ => .error (.part part)

/-- The length of the name that a directive is for. -/
def reach (directive : Directive) : Nat :=
  match directive.name? with
  | some name => (Utf8.encode name).length
  | none => 0

def appliesTo (directive : Directive) (source : Text) : Bool :=
  match directive.name? with
  | some name => name.isPrefixOf source
  | none => true

end Directive

namespace Filter

/-- Put a directive in force, in place of one for the same name. -/
def insert (directives : List Directive) (directive : Directive) : List Directive :=
  if directives.any (·.name? == directive.name?) then
    directives.map fun old => if old.name? = directive.name? then directive else old
  else directives ++ [directive]

/-- Sort the readings of a specification's parts. -/
def gather : List (Except SpecFault Directive) → List Directive × List SpecFault
  | readings =>
      readings.foldl
        (fun (directives, faults) reading =>
          match reading with
          | .ok directive => (insert directives directive, faults)
          | .error fault => (directives, faults ++ [fault]))
        ([], [])

/-- Read directives separated by commas.  Without any, only errors are shown. -/
def ofParts (text : Text) : Filter × List SpecFault :=
  let parts := ((text.splitOn ',').map trim).filter fun part => !part.isEmpty
  let (directives, faults) := gather (parts.map Directive.ofPart)
  (⟨if directives.isEmpty then [⟨none, .error⟩] else directives, none⟩, faults)

/-- Read a specification: directives, and after a slash a pattern to look for. -/
def ofSpec (spec : Text) : Filter × List SpecFault :=
  match spec.splitOn '/' with
  | [directives] => ofParts directives
  | [directives, written] =>
      let (filter, faults) := ofParts directives
      match Pattern.ofText written with
      | .ok pattern => ({ filter with pattern? := some pattern }, faults)
      | .error fault => (filter, faults ++ [.pattern fault])
  | _ => (⟨[⟨none, .error⟩], none⟩, [.tooManySlashes spec])

/-- The directive that counts for a source: the longest that applies, of two
equally long ones the later. -/
def directiveFor? (filter : Filter) (source : Text) : Option Directive :=
  filter.directives.foldl
    (fun best? directive =>
      if directive.appliesTo source then
        match best? with
        | some best => if best.reach ≤ directive.reach then some directive else some best
        | none => some directive
      else best?)
    none

def shows (filter : Filter) (event : Event) : Bool :=
  (match filter.directiveFor? event.source with
    | some directive => Level.debug.rank ≤ directive.level.rank
    | none => false) &&
  match filter.pattern? with
  | some pattern => pattern.occursIn event.message
  | none => true

/-- What is shown when nothing else is asked for. -/
def usual (verbose : Bool) : Filter :=
  ⟨[⟨none, if verbose then .debug else .warn⟩], none⟩

end Filter

end RuleDigest.Log

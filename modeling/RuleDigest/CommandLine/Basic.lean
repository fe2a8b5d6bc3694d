import RuleDigest.Text.Plain

/-!
What a command line can ask for, and what can be wrong with it.
-/

namespace RuleDigest.CommandLine

/-- The options and positional arguments of a run. -/
structure Options where
  statistic? : Option Text
  resultsDir? : Option Bytes
  /-- Positional arguments beyond the second. -/
  extra : List Text
  rulesDir? : Option Bytes
  header : Bool
  verbose : Bool
  json : Bool
  deriving DecidableEq, Repr

/-- Nothing is chosen. -/
def Options.none : Options :=
  ⟨.none, .none, [], .none, false, false, false⟩

inductive Request where
  | help (full : Bool)
  | version
  | run (options : Options)
  deriving DecidableEq, Repr

/-- A flag, which takes no value. -/
inductive Flag where
  | header
  | verbose
  | json
  | help (full : Bool)
  | version
  deriving DecidableEq, Repr

namespace Flag

def ofLong? (name : Bytes) : Option Flag :=
  if name = Utf8.ofString "header" then some header
  else if name = Utf8.ofString "verbose" then some verbose
  else if name = Utf8.ofString "json" then some json
  else if name = Utf8.ofString "help" then some (help true)
  else if name = Utf8.ofString "version" then some version
  else none

def ofShort? : Char → Option Flag
  | 'v' => some verbose
  | 'h' => some (help false)
  | 'V' => some version
  | _ => none

/-- The name by which a flag is spoken of. -/
def display : Flag → Text
  | header => "--header".toList
  | verbose => "--verbose".toList
  | json => "--json".toList
  | help _ => "--help".toList
  | version => "--version".toList

end Flag

/-- An argument that needs a value with at least one byte. -/
inductive Parameter where
  | rulesDir
  | resultsDir
  deriving DecidableEq, Repr

namespace Parameter

/-- The name by which a parameter is spoken of. -/
def display : Parameter → Text
  | rulesDir => "--rules-dir <DIR>".toList
  | resultsDir => "[Result-Folder]".toList

end Parameter

inductive UsageError where
  | unexpectedArgument (shown : Text)
  | unexpectedValue (flag : Flag) (shown : Text)
  | missingValue (parameter : Parameter)
  | repeatedFlag (flag : Flag)
  | repeatedParameter (parameter : Parameter)
  | notUtf8
  deriving DecidableEq, Repr

namespace UsageError

/-- The text of an error.  What is shown of an argument is made plain by itself. -/
def message : UsageError → Text
  | unexpectedArgument shown =>
      "unexpected argument '".toList ++ Plain.strip shown ++ "' found".toList
  | unexpectedValue flag shown =>
      "unexpected value '".toList ++ Plain.strip shown ++ "' for '".toList ++ flag.display ++
        "' found; no more were expected".toList
  | missingValue parameter =>
      "a value is required for '".toList ++ parameter.display ++
        "' but none was supplied".toList
  | repeatedFlag flag =>
      "the argument '".toList ++ flag.display ++ "' cannot be used multiple times".toList
  | repeatedParameter parameter =>
      "the argument '".toList ++ parameter.display ++ "' cannot be used multiple times".toList
  | notUtf8 => "invalid UTF-8 was detected in one or more arguments".toList

/-- What is printed of an error: the first line of its text. -/
def report (error : UsageError) : Text :=
  ("error: ".toList ++ error.message).takeWhile (· != '\n')

end UsageError

end RuleDigest.CommandLine

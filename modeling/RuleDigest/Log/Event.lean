import RuleDigest.Text.Literal
import RuleDigest.Text.Plain

/-!
What a run notes for whoever debugs it.
-/

namespace RuleDigest.Log

/-- Something worth noting, with the paths as they were given. -/
inductive Event where
  | extraIgnored (arguments : List Text)
  | collecting (statistic : Text) (resultsDir rulesDir : Bytes)
  | configAbsent (path : Bytes)
  | configLoaded (path : Bytes)
  | entrySkipped (path : Bytes)
  | rulesFound (count : Nat) (root : Bytes)
  | valueFound (path : Bytes) (key value : Text)
  | valueAbsent (path : Bytes) (key : Text)
  deriving DecidableEq, Repr

namespace Event

/-- The part of the program that notes an event. -/
def source : Event → Text
  | extraIgnored _ => "rulestat::cli".toList
  | collecting .. => "rulestat::cli".toList
  | configAbsent _ => "rulestat::config".toList
  | configLoaded _ => "rulestat::config".toList
  | entrySkipped _ => "rulestat::rules".toList
  | rulesFound .. => "rulestat::rules".toList
  | valueFound .. => "rulestat::result_file".toList
  | valueAbsent .. => "rulestat::result_file".toList

def message : Event → Text
  | extraIgnored arguments => "ignoring extra arguments: ".toList ++ Literal.quoteAll arguments
  | collecting statistic resultsDir rulesDir =>
      "collecting '".toList ++ statistic ++ "' from ".toList ++ Utf8.decodeLossy resultsDir ++
        " for rules in ".toList ++ Utf8.decodeLossy rulesDir
  | configAbsent path =>
      "no config at ".toList ++ Utf8.decodeLossy path ++ ", using defaults".toList
  | configLoaded path => "loaded config from ".toList ++ Utf8.decodeLossy path
  | entrySkipped path => "skipping non-file entry ".toList ++ Utf8.decodeLossy path
  | rulesFound count root =>
      "found ".toList ++ Nat.toDigits 10 count ++ " rule(s) in ".toList ++ Utf8.decodeLossy root
  | valueFound path key value =>
      Utf8.decodeLossy path ++ ": ".toList ++ key ++ " = ".toList ++ value
  | valueAbsent path key => Utf8.decodeLossy path ++ ": ".toList ++ key ++ " not present".toList

/-- The mark by which a written event begins. -/
def mark (event : Event) : Text :=
  "[DEBUG ".toList ++ event.source ++ "] ".toList

/-- A text whose lines after the first are indented by four blanks. -/
def indented (text : Text) : Text :=
  text.flatMap fun char => if char = '\n' then "\n    ".toList else [char]

/-- What is written of an event: the mark, the message and a line end, which an
unfinished escape sequence in the message swallows. -/
def written (event : Event) : Text :=
  Plain.strip (event.mark ++ indented event.message ++ ['\n'])

end Event

end RuleDigest.Log

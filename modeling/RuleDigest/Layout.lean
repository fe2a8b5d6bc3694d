import RuleDigest.Path

/-!
The names that the tool expects in a project: a configuration file, a rules
directory with one file per rule, and a results directory with one result file
per rule.
-/

namespace RuleDigest

namespace Layout

/-- The rules directory of a project that configures none. -/
def rulesDir : Bytes := Utf8.ofString "RuleSets"

/-- The value recorded for a rule whose result file lacks the key. -/
def missingValue : Text := "none".toList

def configName : Bytes := Utf8.ofString "rulestat.toml"

/-- The ending of a result file's name, dot included. -/
def resultSuffix : Text := ".result".toList

def configFile (directory : Bytes) : Bytes :=
  Path.join directory configName

def resultFileName (rule : Text) : Text :=
  rule ++ resultSuffix

/-- The rule that a result file's name stands for.  A name without the ending
stands for itself. -/
def ruleNameOf (resultFile : Text) : Text :=
  if resultSuffix.isSuffixOf resultFile then
    resultFile.take (resultFile.length - resultSuffix.length)
  else resultFile

end Layout

/-- A rule, known by the base name of its file.  The name keeps its raw bytes,
so that a name that is not UTF-8 still finds its result file. -/
structure Rule where
  name : Bytes
  deriving DecidableEq, Repr

namespace Rule

/-- The rule's name as it is shown. -/
def displayName (rule : Rule) : Text :=
  Utf8.decodeLossy rule.name

def resultFileName (rule : Rule) : Bytes :=
  rule.name ++ Utf8.encode Layout.resultSuffix

/-- Where the rule's result file lies in a results directory. -/
def resultPath (rule : Rule) (resultsDir : Bytes) : Bytes :=
  Path.join resultsDir rule.resultFileName

end Rule

end RuleDigest

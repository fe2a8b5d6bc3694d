import RuleDigest.Json
import RuleDigest.Summary

/-!
What is printed of a summary: lines of columns, or a JSON object.
-/

namespace RuleDigest

/-- The result of a run, with the statistic that was looked up. -/
structure Report where
  statistic : Text
  summary : Summary
  /-- Print the names of the rules above the values. -/
  header : Bool
  deriving DecidableEq, Repr

namespace Report

/-- The lines of columns, each ended by a line feed. -/
def toLines (report : Report) : Text :=
  (if report.header then report.summary.header ++ ['\n'] else []) ++
    report.summary.line ++ ['\n']

/-- The values by shown name.  Two names that are shown alike stay two members. -/
def values (report : Report) : Json :=
  .object (report.summary.entries.map fun entry => (Utf8.decodeLossy entry.1, .string entry.2))

def json (report : Report) : Json :=
  .object [("stat".toList, .string report.statistic), ("values".toList, report.values)]

def toJson (report : Report) : Text :=
  report.json.pretty 0

end Report

end RuleDigest

import RuleDigest.Config
import RuleDigest.ResultText
import RuleDigest.RuleSet

/-!
The values of one statistic over a set of rules.

A summary keeps its entries in ascending order of the raw bytes of their result
file names, so it does not depend on the order of the rules.
-/

namespace RuleDigest

/-- An entry of a summary: a result file's name and the value found in it. -/
abbrev SummaryEntry := Bytes × Text

/-- Values of one statistic by result file name, in ascending order of names, of
which no two are the same. -/
structure Summary where
  entries : List SummaryEntry
  ascending : entries.Pairwise fun first second => first.1 < second.1
  deriving DecidableEq, Repr

/-- A result file was not read to its end. -/
structure ResultError where
  path : Bytes
  fault : ReadFault
  deriving DecidableEq, Repr

/-- Why a statistic could not be collected from a project. -/
inductive CollectError where
  | scan (error : ScanError)
  | result (error : ResultError)
  deriving DecidableEq, Repr

/-- The value of a key in the result file at a path, if the file has it. -/
def ResultText.readValue (workspace : Workspace) (path : Bytes) (key : Text) :
    Except ResultError (Option Text) :=
  match workspace.readText path with
  | .ok text => .ok (ResultText.extractValue text key)
  | .error fault => .error ⟨path, fault⟩

namespace Summary

/-- A summary without entries. -/
def empty : Summary := ⟨[], .nil⟩

/-- Put an entry at its place in an ascending list, instead of one of its name. -/
def insertEntry (name : Bytes) (value : Text) : List SummaryEntry → List SummaryEntry
  | [] => [(name, value)]
  | entry :: rest =>
      if name < entry.1 then (name, value) :: entry :: rest
      else if name = entry.1 then (name, value) :: rest
      else entry :: insertEntry name value rest

theorem name_of_mem_insertEntry {name : Bytes} {value : Text} {entries : List SummaryEntry}
    {entry : SummaryEntry} (member : entry ∈ insertEntry name value entries) :
    entry.1 = name ∨ entry ∈ entries := by
  induction entries with
  | nil => simp_all [insertEntry]
  | cons head tail inductionHypothesis =>
      unfold insertEntry at member
      split at member
      · rcases List.mem_cons.1 member with rfl | member
        · exact .inl rfl
        · exact .inr member
      · split at member
        · rcases List.mem_cons.1 member with rfl | member
          · exact .inl rfl
          · exact .inr (List.mem_cons_of_mem _ member)
        · rcases List.mem_cons.1 member with rfl | member
          · exact .inr List.mem_cons_self
          · exact (inductionHypothesis member).imp_right (List.mem_cons_of_mem _)

theorem insertEntry_ascending {name : Bytes} {value : Text} {entries : List SummaryEntry}
    (ascending : entries.Pairwise fun first second => first.1 < second.1) :
    (insertEntry name value entries).Pairwise fun first second => first.1 < second.1 := by
  induction entries with
  | nil => exact List.pairwise_singleton _ _
  | cons head tail inductionHypothesis =>
      have ⟨below, tailAscending⟩ := List.pairwise_cons.1 ascending
      unfold insertEntry
      split
      next before =>
        refine List.pairwise_cons.2 ⟨fun entry member => ?_, ascending⟩
        rcases List.mem_cons.1 member with rfl | member
        · exact before
        · exact List.lt_trans before (below entry member)
      next notBefore =>
        split
        next same => exact List.pairwise_cons.2 ⟨same ▸ below, tailAscending⟩
        next other =>
          have after : head.1 < name :=
            Decidable.byContradiction fun notAfter =>
              other (List.le_antisymm (List.not_lt.1 notAfter) (List.not_lt.1 notBefore))
          refine List.pairwise_cons.2
            ⟨fun entry member => ?_, inductionHypothesis tailAscending⟩
          rcases name_of_mem_insertEntry member with same | member
          · exact same ▸ after
          · exact below entry member

/-- Record the value of a result file. -/
def insert (summary : Summary) (name : Bytes) (value : Text) : Summary :=
  ⟨insertEntry name value summary.entries, insertEntry_ascending summary.ascending⟩

/-- The value recorded for a result file's name. -/
def get? (summary : Summary) (name : Bytes) : Option Text :=
  summary.entries.lookup name

theorem lookup_insertEntry (name : Bytes) (value : Text) (entries : List SummaryEntry)
    (asked : Bytes) :
    (insertEntry name value entries).lookup asked =
      if asked = name then some value else entries.lookup asked := by
  induction entries with
  | nil => exact lookup_cons_ite asked name value []
  | cons head tail inductionHypothesis =>
      obtain ⟨key, kept⟩ := head
      unfold insertEntry
      split
      · exact lookup_cons_ite asked name value _
      · split
        next same =>
          rw [lookup_cons_ite, lookup_cons_ite]
          grind
        next different =>
          rw [lookup_cons_ite, lookup_cons_ite, inductionHypothesis]
          grind

@[simp]
theorem get?_empty (name : Bytes) : empty.get? name = none := rfl

/-- Recording a value changes what is recorded for its name and for no other. -/
theorem get?_insert (summary : Summary) (name : Bytes) (value : Text) (asked : Bytes) :
    (summary.insert name value).get? asked =
      if asked = name then some value else summary.get? asked :=
  lookup_insertEntry name value summary.entries asked

/-- The number of recorded values. -/
def size (summary : Summary) : Nat :=
  summary.entries.length

/-- Add the values of rules one after the other, up to the first result file that
cannot be read. -/
def collectInto (workspace : Workspace) (resultsDir : Bytes) (key missingValue : Text) :
    Summary → List Rule → Except ResultError Summary
  | summary, [] => .ok summary
  | summary, rule :: rest =>
      match ResultText.readValue workspace (rule.resultPath resultsDir) key with
      | .error error => .error error
      | .ok value? =>
          collectInto workspace resultsDir key missingValue
            (summary.insert rule.resultFileName (value?.getD missingValue)) rest

/-- Collect a statistic from the result files of rules. -/
def collect (workspace : Workspace) (rules : List Rule) (resultsDir : Bytes)
    (key missingValue : Text) : Except ResultError Summary :=
  collectInto workspace resultsDir key missingValue empty rules

/-- Scan the configured rules directory and collect a statistic of its rules. -/
def aggregate (workspace : Workspace) (config : Config) (key : Text) (resultsDir : Bytes) :
    Except CollectError Summary :=
  match RuleSet.scan workspace config.rulesDir with
  | .error error => .error (.scan error)
  | .ok ruleSet =>
      (collect workspace ruleSet.rules resultsDir key config.missingValue).mapError .result

/-! ## Views -/

/-- Written after every column of a line. -/
def separator : Text := "; ".toList

/-- Columns with a separator after each, the last included. -/
def joinColumns (columns : List Text) : Text :=
  columns.flatMap (· ++ separator)

/-- The recorded values, in order. -/
def values (summary : Summary) : List Text :=
  summary.entries.map Prod.snd

/-- The names of the result files as they are shown, in order. -/
def shownNames (summary : Summary) : List Text :=
  summary.entries.map fun entry => Utf8.decodeLossy entry.1

/-- The values as one line. -/
def line (summary : Summary) : Text :=
  joinColumns summary.values

/-- The names of the rules as one line, in the order of the values. -/
def header (summary : Summary) : Text :=
  joinColumns (summary.shownNames.map Layout.ruleNameOf)

end Summary

end RuleDigest

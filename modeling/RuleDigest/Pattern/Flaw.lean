import RuleDigest.Text.Utf8

/-!
What can be wrong with a written pattern, and how it is shown: the pattern, a line
of carets below the place, and the reason.
-/

namespace RuleDigest.Pattern

/-- A part of a written pattern, from one character up to another. -/
structure Span where
  start : Nat
  stop : Nat
  deriving DecidableEq, Repr

/-- A reason why a written pattern is refused. -/
inductive Defect where
  | setEscape
  | rangeOrder
  | rangeBound
  | setUnclosed
  | decimalTooLarge
  | hexEmpty
  | hexValue
  | hexDigit
  | escapeCut
  | escapeUnknown
  | flagDangling
  | flagTwice
  | flagNegatedTwice
  | flagCut
  | flagUnknown
  | nameTwice
  | nameEmpty
  | nameChar
  | nameCut
  | groupUnclosed
  | groupUnopened
  | countOrder
  | countEmpty
  | countUnclosed
  | operandMissing
  | boundaryUnclosed
  | boundaryUnknown
  | boundaryCut
  | propertyInvalid
  | backreference
  | lookAround
  | unicodeRefused
  | illFormed
  | propertyUnknown
  | propertyValueUnknown
  | shorthandUnavailable
  | caseUnavailable
  deriving DecidableEq, Repr

namespace Defect

/-- The text of a reason. -/
def message (defect : Defect) : Text :=
  String.toList <| match defect with
  | setEscape => "invalid escape sequence found in character class"
  | rangeOrder => "invalid character class range, the start must be <= the end"
  | rangeBound => "invalid range boundary, must be a literal"
  | setUnclosed => "unclosed character class"
  | decimalTooLarge => "decimal literal invalid"
  | hexEmpty => "hexadecimal literal empty"
  | hexValue => "hexadecimal literal is not a Unicode scalar value"
  | hexDigit => "invalid hexadecimal digit"
  | escapeCut => "incomplete escape sequence, reached end of pattern prematurely"
  | escapeUnknown => "unrecognized escape sequence"
  | flagDangling => "dangling flag negation operator"
  | flagTwice => "duplicate flag"
  | flagNegatedTwice => "flag negation operator repeated"
  | flagCut => "expected flag but got end of regex"
  | flagUnknown => "unrecognized flag"
  | nameTwice => "duplicate capture group name"
  | nameEmpty => "empty capture group name"
  | nameChar => "invalid capture group character"
  | nameCut => "unclosed capture group name"
  | groupUnclosed => "unclosed group"
  | groupUnopened => "unopened group"
  | countOrder => "invalid repetition count range, the start must be <= the end"
  | countEmpty => "repetition quantifier expects a valid decimal"
  | countUnclosed => "unclosed counted repetition"
  | operandMissing => "repetition operator missing expression"
  | boundaryUnclosed =>
      "special word boundary assertion is either unclosed or contains an invalid character"
  | boundaryUnknown =>
      "unrecognized special word boundary assertion, " ++
        "valid choices are: start, end, start-half or end-half"
  | boundaryCut =>
      "found either the beginning of a special word boundary or a bounded repetition " ++
        "on a \\b with an opening brace, but no closing brace"
  | propertyInvalid => "invalid Unicode character class"
  | backreference => "backreferences are not supported"
  | lookAround => "look-around, including look-ahead and look-behind, is not supported"
  | unicodeRefused => "Unicode not allowed here"
  | illFormed => "pattern can match invalid UTF-8"
  | propertyUnknown => "Unicode property not found"
  | propertyValueUnknown => "Unicode property value not found"
  | shorthandUnavailable =>
      "Unicode-aware Perl class not found (make sure the unicode-perl feature is enabled)"
  | caseUnavailable =>
      "Unicode-aware case insensitivity matching is not available " ++
        "(make sure the unicode-case feature is enabled)"

end Defect

/-- What is wrong with a written pattern, and where. -/
structure Flaw where
  defect : Defect
  span : Span
  /-- What came earlier and does not go together with it. -/
  earlier? : Option Span
  deriving DecidableEq, Repr

namespace Flaw

/-- A flaw that concerns one place. -/
def single (defect : Defect) (span : Span) : Flaw :=
  ⟨defect, span, none⟩

/-! ## The place of a flaw -/

/-- The line and the column of a character, both counted from one. -/
def position (pattern : Text) (offset : Nat) : Nat × Nat :=
  let before := pattern.take offset
  (before.count '\n' + 1, (before.reverse.takeWhile (· != '\n')).length + 1)

/-- The lines of a text without their ends, the last of them if it is not empty. -/
def lines (text : Text) : List Text :=
  let pieces := text.splitOn '\n'
  let whole := pieces.dropLast.map fun line =>
    if line.getLast? = some '\r' then line.dropLast else line
  whole ++ (pieces.getLast?.toList.filter fun line => !line.isEmpty)

/-- Carets below columns, given in ascending order, from a column on. -/
def carets : (column : Nat) → List (Nat × Nat) → Text
  | _, [] => []
  | column, (start, stop) :: rest =>
      let width := max 1 (stop - start)
      List.replicate (start - column) ' ' ++ List.replicate width '^' ++
        carets (max column start + width) rest

/-- The spans of a flaw in the order in which they begin. -/
def spans (flaw : Flaw) : List Span :=
  match flaw.earlier? with
  | none => [flaw.span]
  | some earlier => if earlier.start ≤ flaw.span.start then [earlier, flaw.span] else
      [flaw.span, earlier]

def columnsOn (pattern : Text) (flaw : Flaw) (line : Nat) : List (Nat × Nat) :=
  flaw.spans.filterMap fun span =>
    let (startLine, startColumn) := position pattern span.start
    let (stopLine, stopColumn) := position pattern span.stop
    if startLine = line ∧ stopLine = line then some (startColumn, stopColumn) else none

/-- The lines of a pattern after `line` many, with carets where a flaw is; each has
a margin, which its number is in unless there is only one. -/
def annotated (pattern : Text) (flaw : Flaw) (digits : Nat) : (line : Nat) → List Text → Text
  | _, [] => []
  | line, content :: rest =>
      let number := Nat.toDigits 10 (line + 1)
      let margin :=
        if digits = 0 then List.replicate 4 ' '
        else List.replicate (digits - number.length) ' ' ++ number ++ ": ".toList
      let columns := columnsOn pattern flaw (line + 1)
      let below :=
        if columns.isEmpty then []
        else List.replicate margin.length ' ' ++ carets 1 columns ++ ['\n']
      margin ++ content ++ '\n' :: below ++ annotated pattern flaw digits (line + 1) rest

/-- The remark on a span of several lines. -/
def remark? (pattern : Text) (span : Span) : Option Text :=
  let (startLine, startColumn) := position pattern span.start
  let (stopLine, stopColumn) := position pattern span.stop
  let number := Nat.toDigits 10
  if startLine = stopLine then none
  else some ("on line ".toList ++ number startLine ++ " (column ".toList ++ number startColumn ++
    ") through line ".toList ++ number stopLine ++ " (column ".toList ++
    number (stopColumn - 1) ++ ")".toList)

def message (pattern : Text) (flaw : Flaw) : Text :=
  let reason := "error: ".toList ++ flaw.defect.message
  let title := "regex parse error:\n".toList
  if pattern.contains '\n' then
    let count := pattern.count '\n' + 1
    let divider := List.replicate 79 '~' ++ ['\n']
    let remarks := flaw.spans.filterMap (remark? pattern)
    title ++ divider ++ annotated pattern flaw (Nat.toDigits 10 count).length 0 (lines pattern) ++
      divider ++ (if remarks.isEmpty then [] else ['\n'].intercalate remarks ++ ['\n']) ++ reason
  else title ++ annotated pattern flaw 0 0 (lines pattern) ++ reason

end Flaw

end RuleDigest.Pattern

import RuleDigest.Text.Blank
import RuleDigest.Text.Utf8

/-!
Result texts: one record per line, a key token and a value token separated by
blanks.

`extractValue` looks a key up.  A line counts when it has at least two tokens
and its first is exactly the key followed by a colon; of several such lines the
last wins.
-/

namespace RuleDigest

namespace ResultText

/-- The token that marks a line as carrying a key: the key and a colon. -/
def keyToken (key : Text) : Text :=
  key ++ [':']

/-- Either of the two characters that end a line. -/
def endsLine (char : Char) : Bool :=
  char == '\n' || char == '\r'

/-- The pieces of a text between characters that end a line.  A carriage return
before a line feed leaves an empty piece, which has no tokens. -/
def pieces (text : Text) : List Text :=
  text.splitOnP endsLine

/-- The tokens of a line: its maximal runs of characters that are not blank. -/
def tokens (line : Text) : List Text :=
  (line.splitOnP isBlank).filter fun piece => !piece.isEmpty

/-- The value that a line records for a key. -/
def recorded? (key line : Text) : Option Text :=
  match tokens line with
  | first :: second :: _ => if first = keyToken key then some second else none
  | _ => none

/-- The value of a key in a result text: that of the last line that records one. -/
def extractValue (text key : Text) : Option Text :=
  (pieces text).foldl (fun found line => (recorded? key line).or found) none

end ResultText

end RuleDigest

import RuleDigest.ResultText

/-!
The format of result texts, stated without the reader.

A line ends with a line feed, a carriage return, or the two together; its tokens
are the maximal runs of characters that are not blank.  `IsValue` says which
value a text holds for a key, and `write` makes a text of given records.
-/

namespace RuleDigest.ResultText

/-! ## Lines and tokens -/

/-- The lines of a text.  A carriage return and the line feed after it are one
terminator.  What follows the last terminator is a line, even if it is empty. -/
def lines : Text → List Text
  | [] => [[]]
  | '\r' :: '\n' :: rest => [] :: lines rest
  | char :: rest =>
      if endsLine char then [] :: lines rest
      else match lines rest with
        | [] => [[char]]
        | line :: others => (char :: line) :: others

/-- A text of blanks. -/
def IsGap (text : Text) : Prop :=
  ∀ char ∈ text, isBlank char = true

/-- A text that a token can be: not empty and without blanks. -/
def IsToken (text : Text) : Prop :=
  text ≠ [] ∧ ∀ char ∈ text, isBlank char = false

/-- The text is empty or begins with a blank. -/
def EndsToken (text : Text) : Prop :=
  ∀ char ∈ text.head?, isBlank char = true

/-- The tokens of a line are its maximal runs of characters that are not blank. -/
inductive HasTokens : Text → List Text → Prop where
  | done {gap : Text} : IsGap gap → HasTokens gap []
  | token {gap token rest : Text} {others : List Text} :
      IsGap gap → IsToken token → EndsToken rest → HasTokens rest others →
      HasTokens (gap ++ token ++ rest) (token :: others)

/-- A line records a value for a key: its first token is the key and a colon,
and its second is the value. -/
def Records (key line value : Text) : Prop :=
  ∃ others, HasTokens line ((key ++ [':']) :: value :: others)

/-- The value of a text for a key: that of the last line that records one. -/
def IsValue (text key : Text) : Option Text → Prop
  | some value =>
      ∃ before line after, lines text = before ++ line :: after ∧ Records key line value ∧
        ∀ later ∈ after, ∀ other, ¬ Records key later other
  | none => ∀ line ∈ lines text, ∀ value, ¬ Records key line value

/-! ## Writing records -/

/-- A line terminator. -/
inductive Terminator where
  | lineFeed
  | carriageReturn
  | both
  deriving DecidableEq, Repr

/-- The characters of a terminator. -/
def Terminator.text : Terminator → Text
  | lineFeed => ['\n']
  | carriageReturn => ['\r']
  | both => ['\r', '\n']

/-- The terminators of the lines of a text, in order. -/
def terminators : Text → List Terminator
  | [] => []
  | '\r' :: '\n' :: rest => .both :: terminators rest
  | char :: rest =>
      if char = '\n' then .lineFeed :: terminators rest
      else if char = '\r' then .carriageReturn :: terminators rest
      else terminators rest

def joinLines : List Text → List Terminator → Text
  | line :: rest, terminator :: others => line ++ terminator.text ++ joinLines rest others
  | lines, _ => lines.flatten

/-- A blank that ends no line. -/
def IsSpace (char : Char) : Prop :=
  isBlank char = true ∧ endsLine char = false

/-- A record as it is written on a line of its own. -/
structure Record where
  /-- Blanks in front of the key. -/
  indent : Text
  key : Text
  /-- Blanks between the key's colon and the value. -/
  gap : Text
  value : Text
  /-- What follows the value on its line, from the blank that ends it on. -/
  trailer : Text
  terminator : Terminator
  deriving DecidableEq, Repr

namespace Record

/-- The parts of a record are what they have to be to be read back. -/
structure WellFormed (record : Record) : Prop where
  indent : ∀ char ∈ record.indent, IsSpace char
  key : ∀ char ∈ record.key, isBlank char = false
  gap : record.gap ≠ [] ∧ ∀ char ∈ record.gap, IsSpace char
  value : IsToken record.value
  trailer : EndsToken record.trailer ∧ ∀ char ∈ record.trailer, endsLine char = false

/-- The line of a record, terminator included. -/
def write (record : Record) : Text :=
  record.indent ++ record.key ++ ':' :: record.gap ++ record.value ++ record.trailer ++
    record.terminator.text

end Record

def write (records : List Record) : Text :=
  records.flatMap Record.write

end RuleDigest.ResultText

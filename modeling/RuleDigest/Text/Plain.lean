import RuleDigest.Text.Utf8

/-!
Texts as they are written where no terminal reads them: without escape sequences
and without control characters, blanks and line ends apart.

An escape sequence is followed from one state to the next.  A blank or a line end
in the middle of one is written, and then everything up to the next control
character is taken for plain text before the sequence goes on.
-/

namespace RuleDigest.Plain

/-- Where a reader of escape sequences stands. -/
inductive State where
  | ground
  /-- After the escape character. -/
  | escape
  /-- After the escape character and a mark that needs one more. -/
  | marked
  /-- In a control sequence, which a letter ends. -/
  | control
  /-- Before, in and after the parameters of a string for the device. -/
  | device
  | parameters
  | markedDevice
  /-- In a string for the device, the application or nobody. -/
  | string
  /-- In a command for the operating system, which a bell ends. -/
  | command
  deriving DecidableEq, Repr

/-- The character that opens an escape sequence. -/
def escapeChar : Char := '\x1B'

/-- The two characters that break an escape sequence off. -/
def cancels (char : Char) : Bool :=
  char == '\x18' || char == '\x1A'

def isControlBlank (char : Char) : Bool :=
  "\t\n\x0C\r".toList.contains char

/-- A character is written outside of escape sequences. -/
def isPlain (char : Char) : Bool :=
  (' ' ≤ char && char ≠ '\x7F') || isControlBlank char

/-- A character lies between two others or is one of them. -/
def between (first last char : Char) : Bool :=
  first ≤ char && char ≤ last

/-- The byte by which a string ends occurs in the encoding of a character. -/
def endsString (char : Char) : Bool :=
  (Utf8.encode [char]).contains 0x9C

namespace State

def next (state : State) (char : Char) : State :=
  if char = escapeChar then .escape
  else if cancels char then .ground
  else match state with
    | ground => .ground
    | escape =>
        if char = '[' then .control
        else if char = 'P' then .device
        else if char = ']' then .command
        else if char = 'X' ∨ char = '^' ∨ char = '_' then .string
        else if between ' ' '/' char then .marked
        else if between '0' '~' char then .ground
        else .escape
    | marked => if between '0' '~' char then .ground else .marked
    | control => if between '@' '~' char then .ground else .control
    | device =>
        if between ' ' '/' char then .markedDevice
        else if between '0' '?' char then .parameters
        else if between '@' '~' char then .string
        else .device
    | parameters =>
        if between ' ' '/' char then .markedDevice
        else if between '<' '~' char then .string
        else .parameters
    | markedDevice => if between '0' '~' char then .string else .markedDevice
    | string => if endsString char then .ground else .string
    | command => if char = '\x07' then .ground else .command

def writes : State → Char → Bool
  | ground, char => isPlain char
  | escape, char => isControlBlank char
  | marked, char => isControlBlank char
  | control, char => isControlBlank char
  | _, _ => false

end State

/-- The part of a text that is written, read from a given state on; `running`
says that the character before was written. -/
def stripFrom : (running : Bool) → State → Text → Text
  | _, _, [] => []
  | running, state, char :: rest =>
      if (running && isPlain char) || state.writes char then
        char :: stripFrom true (if char.toNat < 0x80 then state else .ground) rest
      else stripFrom false (state.next char) rest

/-- The part of a text that is written. -/
def strip (text : Text) : Text :=
  stripFrom false .ground text

end RuleDigest.Plain

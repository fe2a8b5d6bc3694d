import RuleDigest.Pattern
import RuleDigest.Pattern.Cursor

/-!
The smallest parts of a written pattern, and what each means in the mode in which
it is read.

There are no tables of Unicode's classes and cases, so that parts which need one
have no meaning; without Unicode the classes are those of ASCII.
-/

namespace RuleDigest.Pattern

/-- How a written pattern is read. -/
structure Mode where
  caseless : Bool
  /-- `^` and `$` stand at the ends of lines. -/
  multiLine : Bool
  /-- `.` stands for a line end too. -/
  dotAll : Bool
  /-- Lines may end with a carriage return. -/
  carriage : Bool
  unicode : Bool
  deriving DecidableEq, Repr

namespace Mode

/-- The mode at the beginning. -/
def usual : Mode :=
  ⟨false, false, false, false, true⟩

/-- Switch the flag of a letter.  Other letters change nothing here. -/
def switched (mode : Mode) (letter : Char) (value : Bool) : Mode :=
  match letter with
  | 'i' => { mode with caseless := value }
  | 'm' => { mode with multiLine := value }
  | 's' => { mode with dotAll := value }
  | 'R' => { mode with carriage := value }
  | 'u' => { mode with unicode := value }
  | _ => mode

end Mode

/-- A part of a written pattern that no other parts make up. -/
inductive Atom where
  /-- A character; `isByte` says that it is written by two hexadecimal digits. -/
  | char (char : Char) (isByte : Bool)
  | dot
  | lineStart
  | lineEnd
  | place (place : Place)
  | shorthand (set : CharSet) (negated : Bool)
  /-- A class by its property, which is not found for a reason. -/
  | property (reason : Defect)
  deriving DecidableEq, Repr

/-! ## Escapes -/

/-- The classes of ASCII by name. -/
def asciiRanges : List (String × List (Char × Char)) := [
    ("alnum", [('0', '9'), ('A', 'Z'), ('a', 'z')]),
    ("alpha", [('A', 'Z'), ('a', 'z')]),
    ("ascii", [('\x00', '\x7F')]),
    ("blank", [('\t', '\t'), (' ', ' ')]),
    ("cntrl", [('\x00', '\x1F'), ('\x7F', '\x7F')]),
    ("digit", [('0', '9')]),
    ("graph", [('!', '~')]),
    ("lower", [('a', 'z')]),
    ("print", [(' ', '~')]),
    ("punct", [('!', '/'), (':', '@'), ('[', '\x60'), ('\x7B', '~')]),
    ("space", [('\t', '\r'), (' ', ' ')]),
    ("upper", [('A', 'Z')]),
    ("word", [('0', '9'), ('A', 'Z'), ('_', '_'), ('a', 'z')]),
    ("xdigit", [('0', '9'), ('A', 'F'), ('a', 'f')])]

def asciiClass? (name : Text) : Option CharSet :=
  (asciiRanges.find? fun entry => entry.1.toList == name).map fun entry =>
    CharSet.ofRanges entry.2

/-- The class that a letter after a backslash stands for; a capital one stands for
the complement. -/
def shorthand? (letter : Char) : Option Atom :=
  let named (name : String) := ((asciiClass? name.toList).getD .empty : CharSet)
  match letter with
  | 'd' => some (.shorthand (named "digit") false)
  | 'D' => some (.shorthand (named "digit") true)
  | 's' => some (.shorthand (named "space") false)
  | 'S' => some (.shorthand (named "space") true)
  | 'w' => some (.shorthand (named "word") false)
  | 'W' => some (.shorthand (named "word") true)
  | _ => none

/-- A character that stands for itself after a backslash. -/
def isEscapable (char : Char) : Bool :=
  char.toNat < 0x80 && !char.isAlphanum && char != '<' && char != '>'

/-- The value of a hexadecimal digit. -/
def hexDigit? (char : Char) : Option Nat :=
  if '0' ≤ char ∧ char ≤ '9' then some (char.toNat - '0'.toNat)
  else if 'a' ≤ char ∧ char ≤ 'f' then some (char.toNat - 'a'.toNat + 10)
  else if 'A' ≤ char ∧ char ≤ 'F' then some (char.toNat - 'A'.toNat + 10)
  else none

/-- The character of a hexadecimal number, if there is one. -/
def hexChar? (digits : List Nat) : Option Char :=
  let number := digits.foldl (fun value digit => value * 16 + digit) 0
  if number.isValidChar then some (Char.ofNat number) else none

/-- Read exactly so many hexadecimal digits. -/
def hexDigits : (count : Nat) → Cursor → Except Flaw (List Nat × Cursor)
  | 0, cursor => .ok ([], cursor)
  | count + 1, cursor =>
      match cursor.rest with
      | [] => .error (.single .escapeCut cursor.here)
      | char :: _ =>
          match hexDigit? char with
          | none => .error (.single .hexDigit cursor.charSpan)
          | some digit =>
              (hexDigits count cursor.advance).map fun (digits, cursor) => (digit :: digits, cursor)

/-- Read a character by its number, after the letter that announces it and the
count of digits which that letter asks for unless they are in braces. -/
def hexEscape (count : Nat) (cursor : Cursor) : Except Flaw (Atom × Cursor) :=
  match cursor.rest with
  | '\x7B' :: _ =>
      let (taken, after) := cursor.advance.takeWhile fun char => (hexDigit? char).isSome
      match after.rest with
      | [] => .error (.single .escapeCut (after.spanFrom cursor.offset))
      | '\x7D' :: _ =>
          let closed := after.advance
          if taken.isEmpty then .error (.single .hexEmpty (closed.spanFrom cursor.offset))
          else match hexChar? (taken.filterMap hexDigit?) with
            | some char => .ok (.char char false, closed)
            | none => .error (.single .hexValue (after.spanFrom (cursor.offset + 1)))
      | _ => .error (.single .hexDigit after.charSpan)
  | _ =>
      match hexDigits count cursor with
      | .error flaw => .error flaw
      | .ok (digits, after) =>
          match hexChar? digits with
          | some char => .ok (.char char (count == 2), after)
          | none => .error (.single .hexValue (after.spanFrom cursor.offset))

/-- The name of a property without what does not tell it from others: case,
separators and a leading `is`. -/
def normalizedName (name : Text) : Text :=
  let name := name.map Char.toLower
  let name := if "is".toList.isPrefixOf name then name.drop 2 else name
  name.filter fun char => char != ' ' && char != '_' && char != '-' && char.toNat < 0x80

/-- Why there is no class of a property with a name. -/
def propertyDefect (name : Text) : Defect :=
  if ["cf".toList, "sc".toList, "lc".toList].contains (normalizedName name) then
    .propertyValueUnknown
  else .propertyUnknown

/-- Read the name of a property, after the letter that announces it. -/
def propertyEscape (cursor : Cursor) : Except Flaw (Atom × Cursor) :=
  match cursor.rest with
  | [] => .error (.single .escapeCut cursor.here)
  | '\x7B' :: _ =>
      let (name, after) := cursor.advance.takeWhile (· != '\x7D')
      if after.rest.isEmpty then .error (.single .escapeCut after.here)
      else .ok (.property (propertyDefect name), after.skip 1)
  | '\\' :: _ => .error (.single .propertyInvalid cursor.charSpan)
  | char :: _ => .ok (.property (propertyDefect [char]), cursor.advance)

def wordPlace? (name : Text) : Option WordPlace :=
  [("start", WordPlace.start), ("end", .finish), ("start-half", .startHalf),
    ("end-half", .finishHalf)].findSome? fun entry =>
      if entry.1.toList = name then some entry.2 else none

/-- Read the rest of a word boundary that began at `start`.  A name in braces may
follow; other braces are not part of it. -/
def boundaryEscape (start : Nat) (cursor : Cursor) : Except Flaw (Atom × Cursor) :=
  let isNameChar (char : Char) := char.isAlpha || char == '-'
  match cursor.rest with
  | '\x7B' :: _ =>
      let inside := cursor.advance
      match inside.rest with
      | [] => .error (.single .boundaryCut (inside.spanFrom start))
      | char :: _ =>
          if isNameChar char then
            let (name, after) := inside.takeWhile isNameChar
            if after.rest.head? = some '\x7D' then
              match wordPlace? name with
              | some named => .ok (.place (.word named), after.skip 1)
              | none => .error (.single .boundaryUnknown (after.spanFrom inside.offset))
            else .error (.single .boundaryUnclosed (after.spanFrom cursor.offset))
          else .ok (.place (.word .boundary), cursor)
  | _ => .ok (.place (.word .boundary), cursor)

/-- Read an escape from its backslash on. -/
def escape (cursor : Cursor) : Except Flaw (Atom × Cursor) :=
  let start := cursor.offset
  let letter := cursor.skip 1
  let after := letter.skip 1
  match letter.rest with
  | [] => .error (.single .escapeCut (letter.spanFrom start))
  | char :: _ =>
      if char.isDigit then .error (.single .backreference (after.spanFrom start))
      else if isEscapable char then .ok (.char char false, after)
      else match shorthand? char, char with
        | some atom, _ => .ok (atom, after)
        | none, 'x' => hexEscape 2 letter.advance
        | none, 'u' => hexEscape 4 letter.advance
        | none, 'U' => hexEscape 8 letter.advance
        | none, 'p' => propertyEscape letter.advance
        | none, 'P' => propertyEscape letter.advance
        | none, 'a' => .ok (.char '\x07' false, after)
        | none, 'f' => .ok (.char '\x0C' false, after)
        | none, 't' => .ok (.char '\t' false, after)
        | none, 'n' => .ok (.char '\n' false, after)
        | none, 'r' => .ok (.char '\r' false, after)
        | none, 'v' => .ok (.char '\x0B' false, after)
        | none, 'A' => .ok (.place .textStart, after)
        | none, 'z' => .ok (.place .textEnd, after)
        | none, 'b' => boundaryEscape start after
        | none, 'B' => .ok (.place (.word .noBoundary), after)
        | none, '<' => .ok (.place (.word .start), after)
        | none, '>' => .ok (.place (.word .finish), after)
        | none, _ => .error (.single .escapeUnknown (after.spanFrom start))

/-! ## Meanings -/

/-- A meaning, or why there is none. -/
abbrev Meaning (α : Type) := Except Flaw α

namespace Mode

def char (mode : Mode) (span : Span) (char : Char) (isByte : Bool) : Meaning CharSet :=
  if mode.unicode then
    if mode.caseless then .error (.single .caseUnavailable span) else .ok (.single char)
  else if isByte && char.toNat ≥ 0x80 then .error (.single .illFormed span)
  else .ok (if mode.caseless then .caseless (.single char) else .single char)

def member (mode : Mode) (span : Span) (char : Char) (isByte : Bool) : Meaning CharSet :=
  if mode.unicode || char.toNat < 0x80 then .ok (.single char)
  else .error (.single (if isByte then .illFormed else .unicodeRefused) span)

/-- The meaning of a class by a letter. -/
def shorthand (mode : Mode) (span : Span) (set : CharSet) (negated : Bool) : Meaning CharSet :=
  if mode.unicode then .error (.single .shorthandUnavailable span)
  else if negated then .error (.single .illFormed span)
  else .ok set

/-- The meaning of a class by a property. -/
def property (mode : Mode) (span : Span) (reason : Defect) : Meaning CharSet :=
  .error (.single (if mode.unicode then reason else .unicodeRefused) span)

def bracketed (mode : Mode) (span : Span) (set : CharSet) (negated : Bool) : Meaning CharSet :=
  if mode.unicode then
    if mode.caseless then .error (.single .caseUnavailable span)
    else .ok (if negated then .complement set else set)
  else
    let set := if mode.caseless then .caseless set else set
    let set := if negated then .complement set else set
    if set.contains '\x80' then .error (.single .illFormed span) else .ok set

def dot (mode : Mode) (span : Span) : Meaning CharSet :=
  if !mode.unicode then .error (.single .illFormed span)
  else if mode.dotAll then .ok (.complement .empty)
  else if mode.carriage then .ok (.complement (.union (.single '\n') (.single '\r')))
  else .ok (.complement (.single '\n'))

def lineStart (mode : Mode) : Place :=
  if mode.multiLine then .lineStart mode.carriage else .textStart

def lineEnd (mode : Mode) : Place :=
  if mode.multiLine then .lineEnd mode.carriage else .textEnd

/-- The meaning of a part outside of brackets. -/
def atom (mode : Mode) (span : Span) : Atom → Meaning Pattern
  | .char char isByte => (mode.char span char isByte).map .one
  | .dot => (mode.dot span).map .one
  | .lineStart => .ok (.place mode.lineStart)
  | .lineEnd => .ok (.place mode.lineEnd)
  | .place condition => .ok (.place condition)
  | .shorthand set negated => (mode.shorthand span set negated).map .one
  | .property reason => (mode.property span reason).map .one

end Mode

end RuleDigest.Pattern

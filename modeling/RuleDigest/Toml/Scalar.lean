import RuleDigest.Toml.Quoted
import RuleDigest.Toml.Value

/-!
Values without quotes or brackets: booleans, numbers, dates and times.

Each is one word, a maximal run of characters that neither separate nor bracket
values; what the word means depends on nothing but the word.  Only a date may be
joined to a time by a blank.
-/

namespace RuleDigest.Toml.Scalar

/-- The characters of unquoted values: all but blanks, line ends and the marks
around values. -/
def isWordChar (char : Char) : Bool :=
  !" \t\n\r#,=[]\x7B\x7D".toList.contains char

/-! ## Numbers -/

/-- Read digits in a base.  Between two digits an underscore may stand. -/
def digitsFrom? (base : Nat) : (value : Nat) → (afterDigit : Bool) → Text → Option Nat
  | value, afterDigit, [] => if afterDigit then some value else none
  | value, afterDigit, char :: rest =>
      if char = '_' then
        if afterDigit then digitsFrom? base value false rest else none
      else
        match digit? base char with
        | some digit => digitsFrom? base (value * base + digit) true rest
        | none => none

/-- A number written in a base, with at least one digit. -/
def digits? (base : Nat) (text : Text) : Option Nat :=
  digitsFrom? base 0 false text

/-- A decimal number without needless zeros in front.  After a sign it may begin
with an underscore. -/
def whole? (signed : Bool) (text : Text) : Option Nat :=
  if text.isEmpty ∨ (text.head? = some '0' ∧ text ≠ ['0']) then none
  else digitsFrom? 10 0 signed text

/-- A leading sign and the rest. -/
def sign : Text → Option Bool × Text
  | '+' :: rest => (some false, rest)
  | '-' :: rest => (some true, rest)
  | text => (none, text)

/-- A number with a radix mark; none of its digits need to be there. -/
def radixed? (base : Nat) (text : Text) : Option Value :=
  if text.isEmpty then some .unreadable
  else (digits? base text).map fun number => .integer number

def isAnyDigit (char : Char) : Bool :=
  (digit? 16 char).isSome

/-- Every underscore stands between two digits; the first may follow a sign
instead. -/
def spacesDigits (signed : Bool) (text : Text) : Bool :=
  let parts := text.splitOn '_'
  (parts.tail.all fun part => (part.head?.map isAnyDigit).getD false) &&
    parts.dropLast.all fun part => (part.getLast?.map isAnyDigit).getD signed

/-- The characters of which one makes a number a float. -/
def marksFloat (char : Char) : Bool :=
  char == '.' || char == 'e' || char == 'E'

/-- A word that passes for an integer by its beginning: digits up to an underscore
without a needless zero in front, and nothing of a float. -/
def passesForInteger (signed : Bool) (text : Text) : Bool :=
  (text.dropWhile Char.isDigit).head? == some '_' && text.head? != some '0' &&
    !text.any marksFloat && spacesDigits signed text

def integer? (text : Text) : Option Value :=
  match text with
  | '0' :: 'x' :: rest => radixed? 16 rest
  | '0' :: 'o' :: rest => radixed? 8 rest
  | '0' :: 'b' :: rest => radixed? 2 rest
  | _ =>
      let (sign?, text) := sign text
      match whole? sign?.isSome text with
      | some number =>
          some (.integer (if sign? = some true then -(number : Int) else number))
      | none => if passesForInteger sign?.isSome text then some .unreadable else none

/-- A run of digits and underscores, and the rest. -/
def digitRun (text : Text) : Text × Text :=
  text.span fun char => char.isDigit || char == '_'

/-- The fraction of a float: its value as a whole number, its count of places,
and the rest. -/
def fraction? : Text → Option (Nat × Nat × Text)
  | '.' :: text =>
      let (run, rest) := digitRun text
      (digits? 10 run).map fun value => (value, (run.filter Char.isDigit).length, rest)
  | text => some (0, 0, text)

/-- The exponent of a float, with which its text ends. -/
def exponent? : Text → Option Int
  | [] => some 0
  | mark :: text =>
      if mark = 'e' ∨ mark = 'E' then
        let (sign?, text) := sign text
        (digits? 10 text).map fun value =>
          if sign? = some true then -(value : Int) else value
      else none

/-- A floating-point number: a whole part with a fraction, an exponent or both. -/
def float? (text : Text) : Option FloatLiteral :=
  let (sign?, text) := sign text
  let negative := sign? == some true
  if text = "inf".toList then some (.infinite negative)
  else if text = "nan".toList then some .notANumber
  else do
    let (run, rest) := digitRun text
    guard !rest.isEmpty
    let value ← whole? sign?.isSome run
    let (part, places, rest) ← fraction? rest
    let exponent ← exponent? rest
    return .finite negative ⟨value * tenTo places + part, exponent - places⟩

/-! ## Dates and times -/

/-- A number of exactly so many decimal digits, and the rest. -/
def fixed? (count : Nat) (text : Text) : Option (Nat × Text) :=
  let field := text.take count
  if field.length = count ∧ field.all Char.isDigit then
    (digits? 10 field).map fun value => (value, text.drop count)
  else none

/-- What follows a given character. -/
def mark? (char : Char) (text : Text) : Option Text :=
  if text.head? = some char then some text.tail else none

def daysIn (year month : Nat) : Nat :=
  if month = 2 then
    if year % 4 = 0 ∧ (year % 100 ≠ 0 ∨ year % 400 = 0) then 29 else 28
  else if month = 4 ∨ month = 6 ∨ month = 9 ∨ month = 11 then 30
  else 31

/-- What follows a date of the calendar. -/
def date? (text : Text) : Option Text := do
  let (year, rest) ← fixed? 4 text
  let (month, rest) ← fixed? 2 (← mark? '-' rest)
  let (day, rest) ← fixed? 2 (← mark? '-' rest)
  guard (1 ≤ month && month ≤ 12 && 1 ≤ day && day ≤ daysIn year month)
  return rest

def secondFraction? : Text → Option Text
  | '.' :: text =>
      if (text.head?.map Char.isDigit).getD false then some (text.dropWhile Char.isDigit) else none
  | text => some text

/-- What follows the seconds of a time, if there are any.  A leap second counts. -/
def seconds? : Text → Option Text
  | ':' :: text => do
      let (second, rest) ← fixed? 2 text
      guard (second ≤ 60)
      secondFraction? rest
  | text => some text

/-- What follows a time of day. -/
def time? (text : Text) : Option Text := do
  let (hour, rest) ← fixed? 2 text
  let (minute, rest) ← fixed? 2 (← mark? ':' rest)
  guard (hour ≤ 23 && minute ≤ 59)
  seconds? rest

/-- The text ends here, or with the offset of a time zone. -/
def endsWithOffset : Text → Bool
  | [] => true
  | ['Z'] => true
  | ['z'] => true
  | mark :: text =>
      (mark == '+' || mark == '-') &&
        match (do
          let (hour, rest) ← fixed? 2 text
          let (minute, rest) ← fixed? 2 (← mark? ':' rest)
          return hour ≤ 23 && minute ≤ 59 && rest.isEmpty) with
        | some valid => valid
        | none => false

def joinsTime (char : Char) : Bool :=
  char == 'T' || char == 't' || char == ' '

/-- A date, a time, or a date with a time and perhaps an offset. -/
def isDateTime (text : Text) : Bool :=
  match date? text with
  | some [] => true
  | some (char :: rest) => joinsTime char && ((time? rest).map endsWithOffset).getD false
  | none => (time? text).map List.isEmpty |>.getD false

/-! ## Words -/

def ofWord? (word : Text) : Option Value :=
  if word = "true".toList then some (.boolean true)
  else if word = "false".toList then some (.boolean false)
  else if isDateTime word then some (.dateTime word)
  else (integer? word).or ((float? word).map .float)

/-- The word at the front of a text, and the rest.  A date takes a time along
that follows after one blank. -/
def takeWord (text : Text) : Text × Text :=
  let (word, rest) := text.span isWordChar
  match rest with
  | ' ' :: char :: _ =>
      if date? word = some [] ∧ char.isDigit then
        let (time, rest) := rest.tail.span isWordChar
        (word ++ ' ' :: time, rest)
      else (word, rest)
  | _ => (word, rest)

def read? (text : Text) : Option (Value × Text) :=
  let (word, rest) := takeWord text
  (ofWord? word).map fun value => (value, rest)

end RuleDigest.Toml.Scalar

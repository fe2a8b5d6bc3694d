import RuleDigest.Json

/-!
Reading JSON texts.  Members keep their order, and a key that occurs twice is
read twice.

As in writing, every reader of a part yields what it read together with the rest
of the text.
-/

namespace RuleDigest.Json

/-- How deep arrays and objects may be nested. -/
def depthLimit : Nat := 128

/-- The blanks between the parts of a text. -/
def isSpace (char : Char) : Bool :=
  char == ' ' || char == '\n' || char == '\r' || char == '\t'

/-- Skip blanks. -/
def skipSpaces (text : Text) : Text :=
  text.dropWhile isSpace

/-! ## Strings -/

/-- The value of a hexadecimal digit. -/
def digit? (char : Char) : Option Nat :=
  if '0' ≤ char ∧ char ≤ '9' then some (char.toNat - '0'.toNat)
  else if 'a' ≤ char ∧ char ≤ 'f' then some (char.toNat - 'a'.toNat + 10)
  else if 'A' ≤ char ∧ char ≤ 'F' then some (char.toNat - 'A'.toNat + 10)
  else none

/-- The character that a single letter stands for after a backslash. -/
def letter? : Char → Option Char
  | '"' => some '"'
  | '\\' => some '\\'
  | '/' => some '/'
  | 'b' => some '\x08'
  | 'f' => some '\x0C'
  | 'n' => some '\n'
  | 'r' => some '\r'
  | 't' => some '\t'
  | _ => none

/-- Where a reader of a string stands between two characters.  A high surrogate
that has been read waits for its low one. -/
inductive Escape where
  | plain (high? : Option Nat)
  | opened (high? : Option Nat)
  /-- Among the four digits of a code, with `more` to come after the next. -/
  | code (high? : Option Nat) (more value : Nat)
  deriving DecidableEq, Repr

/-- A unit of a code: a character, the first half of one, or the second. -/
def unit? (high? : Option Nat) (code : Nat) : Option (Option Char × Escape) :=
  match high? with
  | some high =>
      if 0xDC00 ≤ code ∧ code ≤ 0xDFFF then
        some (some (Char.ofNat (0x10000 + (high - 0xD800) * 0x400 + (code - 0xDC00))),
          .plain none)
      else none
  | none =>
      if 0xD800 ≤ code ∧ code ≤ 0xDBFF then some (none, .plain (some code))
      else if 0xDC00 ≤ code ∧ code ≤ 0xDFFF then none
      else some (some (Char.ofNat code), .plain none)

/-- Read one character: the character that it completes, if any, and the next state. -/
def Escape.step? : Escape → Char → Option (Option Char × Escape)
  | .plain (some high), char => if char = '\\' then some (none, .opened (some high)) else none
  | .plain none, char =>
      if char = '\\' then some (none, .opened none)
      else if char.toNat < 0x20 then none
      else some (some char, .plain none)
  | .opened high?, char =>
      if char = 'u' then some (none, .code high? 3 0)
      else if high?.isSome then none
      else (letter? char).map fun meant => (some meant, .plain none)
  | .code high? more value, char =>
      match digit? char, more with
      | none, _ => none
      | some digit, 0 => unit? high? (value * 16 + digit)
      | some digit, more + 1 => some (none, .code high? more (value * 16 + digit))

/-- Read a string after its opening quote, from a given state on. -/
def stringFrom? : Escape → Text → Option (Text × Text)
  | _, [] => none
  | state, char :: rest =>
      if char = '"' ∧ state = .plain none then some ([], rest)
      else match state.step? char with
        | none => none
        | some (meant, state) =>
            (stringFrom? state rest).map fun (text, rest) => (meant.toList ++ text, rest)

/-- Read a string after its opening quote. -/
def string? (text : Text) : Option (Text × Text) :=
  stringFrom? (.plain none) text

/-! ## Numbers and names -/

def isDigits (text : Text) : Bool :=
  !text.isEmpty && text.all Char.isDigit

/-- An exponent, or nothing. -/
def isExponent : Text → Bool
  | [] => true
  | mark :: rest =>
      (mark == 'e' || mark == 'E') &&
        match rest with
        | '+' :: digits => isDigits digits
        | '-' :: digits => isDigits digits
        | digits => isDigits digits

/-- A number as JSON writes it: no needless zeros in front, digits on both sides
of the point. -/
def isNumber (text : Text) : Bool :=
  let (whole, rest) := (if text.head? = some '-' then text.tail else text).span Char.isDigit
  let (fraction, exponent) :=
    match rest with
    | '.' :: digits => (some (digits.takeWhile Char.isDigit), digits.dropWhile Char.isDigit)
    | rest => (none, rest)
  isDigits whole && (whole == ['0'] || whole.head? != some '0') &&
    (fraction.map isDigits).getD true && isExponent exponent

/-- The characters of numbers and names. -/
def isWordChar (char : Char) : Bool :=
  char.isAlphanum || char == '+' || char == '-' || char == '.'

/-- The value of a word. -/
def ofWord? (word : Text) : Option Json :=
  if word = "null".toList then some .null
  else if word = "true".toList then some (.boolean true)
  else if word = "false".toList then some (.boolean false)
  else if isNumber word then some (.number word)
  else none

/-! ## Values -/

/-- Read the items of an array, the first of which is due, with a reader for one. -/
def items? (read? : Text → Option (Json × Text)) (text : Text) : Option (List Json × Text) :=
  match read? text with
  | none => none
  | some (item, rest) =>
      match skipSpaces rest with
      | ']' :: rest => some ([item], rest)
      | ',' :: rest =>
          if rest.length < text.length then
            (items? read? rest).map fun (items, rest) => (item :: items, rest)
          else none
      | _ => none
termination_by text.length

/-- Read a key, a colon and a value, with a reader for the value. -/
def member? (read? : Text → Option (Json × Text)) (text : Text) :
    Option ((Text × Json) × Text) :=
  match skipSpaces text with
  | '"' :: rest =>
      match string? rest with
      | none => none
      | some (key, rest) =>
          match skipSpaces rest with
          | ':' :: rest => (read? rest).map fun (value, rest) => ((key, value), rest)
          | _ => none
  | _ => none

/-- Read the members of an object, the first of which is due, with a reader for
one value. -/
def members? (read? : Text → Option (Json × Text)) (text : Text) :
    Option (List (Text × Json) × Text) :=
  match member? read? text with
  | none => none
  | some (member, rest) =>
      match skipSpaces rest with
      | '\x7D' :: rest => some ([member], rest)
      | ',' :: rest =>
          if rest.length < text.length then
            (members? read? rest).map fun (members, rest) => (member :: members, rest)
          else none
      | _ => none
termination_by text.length

/-- Read a value that may be nested so deep. -/
def value? : (depth : Nat) → Text → Option (Json × Text)
  | depth, text =>
      match skipSpaces text, depth with
      | '"' :: rest, _ => (string? rest).map fun (text, rest) => (.string text, rest)
      | '[' :: rest, depth + 1 =>
          match skipSpaces rest with
          | ']' :: rest => some (.array [], rest)
          | _ => (items? (value? depth) rest).map fun (items, rest) => (.array items, rest)
      | '\x7B' :: rest, depth + 1 =>
          match skipSpaces rest with
          | '\x7D' :: rest => some (.object [], rest)
          | _ =>
              (members? (value? depth) rest).map fun (members, rest) => (.object members, rest)
      | text, _ =>
          let (word, rest) := text.span isWordChar
          (ofWord? word).map fun value => (value, rest)

/-- The value that a text writes, with nothing but blanks around it. -/
def read? (text : Text) : Option Json :=
  match value? depthLimit text with
  | some (value, rest) => if (skipSpaces rest).isEmpty then some value else none
  | none => none

end RuleDigest.Json

import RuleDigest.Text.Utf8

/-!
The four kinds of quoted text.

A quoted text is read in two steps: first the raw text up to the closing quotes,
then, between double quotes, the escapes in it.
-/

namespace RuleDigest.Toml

/-- Characters that may stand as themselves on a line of text: all but the
control characters, of which only the tab is allowed. -/
def isPlain (char : Char) : Bool :=
  char == '\t' || (' ' ≤ char && char ≠ '\x7F')

/-- The blanks within a line. -/
def isSpace (char : Char) : Bool :=
  char == ' ' || char == '\t'

/-- The value of a digit, in any base up to sixteen. -/
def digit? (base : Nat) (char : Char) : Option Nat :=
  let value? :=
    if '0' ≤ char ∧ char ≤ '9' then some (char.toNat - '0'.toNat)
    else if 'a' ≤ char ∧ char ≤ 'f' then some (char.toNat - 'a'.toNat + 10)
    else if 'A' ≤ char ∧ char ≤ 'F' then some (char.toNat - 'A'.toNat + 10)
    else none
  value?.filter (· < base)

namespace Quoted

/-- The raw text up to a closing quote on the same line, and what follows it.
Where escapes are in use a quote after a backslash does not close. -/
def line? (quote : Char) (escapes : Bool) : (escaped : Bool) → Text → Option (Text × Text)
  | _, [] => none
  | escaped, char :: rest =>
      if char = quote ∧ escaped = false then some ([], rest)
      else if isPlain char then
        (line? quote escapes (escapes && !escaped && char == '\\') rest).map
          fun (raw, rest) => (char :: raw, rest)
      else none

/-- The raw text up to three closing quotes, and what follows them.  Up to two
more quotes right before the closing ones belong to the text. -/
def block? (quote : Char) (escapes : Bool) : (escaped : Bool) → Text → Option (Text × Text)
  | _, [] => none
  | escaped, char :: rest =>
      let run := 1 + (rest.takeWhile (· == quote)).length
      if char = quote ∧ escaped = false ∧ 3 ≤ run then
        let extra := min (run - 3) 2
        some (List.replicate extra quote, rest.drop (2 + extra))
      else if isPlain char || char == '\n' || (char == '\r' && rest.head? == some '\n') then
        (block? quote escapes (escapes && !escaped && char == '\\') rest).map
          fun (raw, rest) => (char :: raw, rest)
      else none

/-- A line end right after the opening quotes of a block does not count. -/
def dropFirstLineEnd : Text → Text
  | '\n' :: rest => rest
  | '\r' :: '\n' :: rest => rest
  | text => text

/-- Where a reader of escapes stands between two characters. -/
inductive Escape where
  | plain
  /-- After a backslash. -/
  | opened
  /-- Among the digits of a code, with `more` to come after the next. -/
  | code (more value : Nat)
  /-- After a backslash and blanks, with the line end still to come. -/
  | lineEnd
  /-- After a backslash that ends a line: blanks and line ends do not count. -/
  | folded
  deriving DecidableEq, Repr

def scalar? (code : Nat) : Option Char :=
  if code.isValidChar then some (Char.ofNat code) else none

/-- The character that a single letter stands for after a backslash. -/
def letter? : Char → Option Char
  | 'b' => some '\x08'
  | 't' => some '\t'
  | 'n' => some '\n'
  | 'f' => some '\x0C'
  | 'r' => some '\r'
  | 'e' => some '\x1B'
  | '"' => some '"'
  | '\\' => some '\\'
  | _ => none

/-- The number of digits that a letter asks for after a backslash. -/
def codeLength? : Char → Option Nat
  | 'x' => some 2
  | 'u' => some 4
  | 'U' => some 8
  | _ => none

/-- Read one character: the character that it completes, if any, and the next state. -/
def Escape.step? : Escape → Char → Option (Option Char × Escape)
  | .plain, char => some (if char = '\\' then (none, .opened) else (some char, .plain))
  | .opened, char =>
      if let some meant := letter? char then some (some meant, .plain)
      else if let some length := codeLength? char then some (none, .code (length - 1) 0)
      else if char = '\n' then some (none, .folded)
      else if isSpace char ∨ char = '\r' then some (none, .lineEnd)
      else none
  | .code more value, char =>
      match digit? 16 char, more with
      | none, _ => none
      | some digit, 0 => (scalar? (value * 16 + digit)).map fun meant => (some meant, .plain)
      | some digit, more + 1 => some (none, .code more (value * 16 + digit))
  | .lineEnd, char =>
      if char = '\n' then some (none, .folded)
      else if isSpace char ∨ char = '\r' then some (none, .lineEnd)
      else none
  | .folded, char =>
      if isSpace char ∨ char = '\n' ∨ char = '\r' then some (none, .folded)
      else some (if char = '\\' then (none, .opened) else (some char, .plain))

/-- Resolve escapes from a given state on. -/
def unescapeFrom : Escape → Text → Option Text
  | .plain, [] => some []
  | .folded, [] => some []
  | _, [] => none
  | state, char :: rest =>
      match state.step? char with
      | none => none
      | some (meant, state) => (unescapeFrom state rest).map fun text => meant.toList ++ text

def unescape? (raw : Text) : Option Text :=
  unescapeFrom .plain raw

def readLine? (quote : Char) (text : Text) : Option (Text × Text) := do
  let (raw, rest) ← line? quote (quote == '"') false text
  let meant ← if quote = '"' then unescape? raw else some raw
  return (meant, rest)

/-- Read a quoted text that may run over lines, after its opening quotes. -/
def readBlock? (quote : Char) (text : Text) : Option (Text × Text) := do
  let (raw, rest) ← block? quote (quote == '"') false (dropFirstLineEnd text)
  let meant ← if quote = '"' then unescape? raw else some raw
  return (meant, rest)

end Quoted

end RuleDigest.Toml

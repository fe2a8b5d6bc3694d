import RuleDigest.Text.Utf8

/-!
JSON values and their two written forms, a compact one on a single line and a
pretty one indented by two blanks.

Objects keep their members in order, and a key may occur more than once.
-/

namespace RuleDigest

/-- A JSON value.  A number is kept as it is written. -/
inductive Json where
  | null
  | boolean (value : Bool)
  | number (literal : Text)
  | string (text : Text)
  | array (items : List Json)
  | object (members : List (Text × Json))
  deriving Repr

namespace Json

/-- A hexadecimal digit, in lower case. -/
def hexDigit (value : Nat) : Char :=
  Nat.digitChar value

/-- The written form of a character inside quotes.  Quotes, backslashes and the
control characters below U+0020 are escaped, everything else stands for itself. -/
def escape (char : Char) : Text :=
  match char with
  | '"' => ['\\', '"']
  | '\\' => ['\\', '\\']
  | '\x08' => ['\\', 'b']
  | '\t' => ['\\', 't']
  | '\n' => ['\\', 'n']
  | '\x0C' => ['\\', 'f']
  | '\r' => ['\\', 'r']
  | _ =>
      if char.toNat < 0x20 then
        ['\\', 'u', '0', '0', hexDigit (char.toNat / 16), hexDigit (char.toNat % 16)]
      else [char]

def quote (text : Text) : Text :=
  '"' :: text.flatMap escape ++ ['"']

/-- The written form of a truth value. -/
def ofBool (value : Bool) : Text :=
  if value then "true".toList else "false".toList

mutual

/-- The form without blanks. -/
def compact : Json → Text
  | null => "null".toList
  | boolean value => ofBool value
  | number literal => literal
  | string text => quote text
  | array items => '[' :: compactItems items ++ [']']
  | object members => '\x7B' :: compactMembers members ++ ['\x7D']

/-- Items separated by commas. -/
def compactItems : List Json → Text
  | [] => []
  | [item] => compact item
  | item :: rest => compact item ++ ',' :: compactItems rest

/-- Members separated by commas. -/
def compactMembers : List (Text × Json) → Text
  | [] => []
  | [(key, value)] => quote key ++ ':' :: compact value
  | (key, value) :: rest => quote key ++ ':' :: compact value ++ ',' :: compactMembers rest

end

/-- The start of a line at a level of indentation. -/
def newLine (level : Nat) : Text :=
  '\n' :: List.replicate (2 * level) ' '

mutual

/-- The form with an item or member on each line, at a level of indentation.
Empty arrays and objects stay on their line. -/
def pretty (level : Nat) : Json → Text
  | null => "null".toList
  | boolean value => ofBool value
  | number literal => literal
  | string text => quote text
  | array [] => "[]".toList
  | array (item :: rest) =>
      '[' :: newLine (level + 1) ++ prettyItems (level + 1) (item :: rest) ++ newLine level ++ [']']
  | object [] => ['\x7B', '\x7D']
  | object (member :: rest) =>
      '\x7B' :: newLine (level + 1) ++ prettyMembers (level + 1) (member :: rest) ++
        newLine level ++ ['\x7D']

/-- Items, each but the first on a line of its own. -/
def prettyItems (level : Nat) : List Json → Text
  | [] => []
  | [item] => pretty level item
  | item :: rest => pretty level item ++ ',' :: newLine level ++ prettyItems level rest

/-- Members, each but the first on a line of its own. -/
def prettyMembers (level : Nat) : List (Text × Json) → Text
  | [] => []
  | [(key, value)] => quote key ++ ": ".toList ++ pretty level value
  | (key, value) :: rest =>
      quote key ++ ": ".toList ++ pretty level value ++ ',' :: newLine level ++
        prettyMembers level rest

end

end Json

end RuleDigest

import RuleDigest.Text.Unprintable
import RuleDigest.Text.Utf8

/-!
Texts written between quotes so that every character can be told.
-/

namespace RuleDigest.Literal

/-- A number in hexadecimal, in lower case. -/
def hexadecimal (number : Nat) : Text :=
  Nat.toDigits 16 number

/-- The written form of a character: an escape for a quote, a backslash and
everything unprintable. -/
def escape (char : Char) : Text :=
  match char with
  | '\x00' => ['\\', '0']
  | '\t' => ['\\', 't']
  | '\n' => ['\\', 'n']
  | '\r' => ['\\', 'r']
  | '"' => ['\\', '"']
  | '\\' => ['\\', '\\']
  | _ =>
      if ' ' ≤ char ∧ char ≤ '~' then [char]
      else if isUnprintable char then
        ['\\', 'u', '\x7B'] ++ hexadecimal char.toNat ++ ['\x7D']
      else [char]

def quote (text : Text) : Text :=
  '"' :: text.flatMap escape ++ ['"']

def quoteAll (texts : List Text) : Text :=
  '[' :: ", ".toList.intercalate (texts.map quote) ++ [']']

end RuleDigest.Literal

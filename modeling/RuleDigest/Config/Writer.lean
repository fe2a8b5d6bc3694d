import RuleDigest.Config

/-!
Writing a configuration as a document.
-/

namespace RuleDigest

namespace Toml.Quoted

/-- A hexadecimal digit, in upper case. -/
def hexDigit (value : Nat) : Char :=
  (Nat.digitChar value).toUpper

/-- The written form of a character between double quotes.  Quotes, backslashes
and control characters are escaped, everything else stands for itself. -/
def escape (char : Char) : Text :=
  if char = '"' ∨ char = '\\' then ['\\', char]
  else if char.toNat < 0x20 ∨ char = '\x7F' then
    ['\\', 'u', '0', '0', hexDigit (char.toNat / 16), hexDigit (char.toNat % 16)]
  else [char]

/-- A text between double quotes. -/
def write (text : Text) : Text :=
  '"' :: text.flatMap escape ++ ['"']

end Toml.Quoted

namespace ConfigField

def line (field : ConfigField) (text : Text) : Text :=
  field.key ++ " = ".toList ++ Toml.Quoted.write text ++ ['\n']

end ConfigField

namespace Config

/-- A document that sets fields, in the order given. -/
def document (settings : List (ConfigField × Text)) : Text :=
  settings.flatMap fun setting => setting.1.line setting.2

/-- The configuration that settings describe, with defaults for the rest. -/
def ofSettings (settings : List (ConfigField × Text)) : Config :=
  { rulesDir := ((settings.lookup .rulesDir).map Utf8.encode).getD default.rulesDir
    missingValue := (settings.lookup .missingValue).getD default.missingValue }

end Config

end RuleDigest

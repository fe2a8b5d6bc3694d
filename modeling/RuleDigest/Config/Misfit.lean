import RuleDigest.Json
import RuleDigest.Toml.Value

/-!
The fields of a configuration, and why an entry of a TOML table does not fit
them.
-/

namespace RuleDigest

/-- A key that a configuration may have. -/
inductive ConfigField where
  | rulesDir
  | missingValue
  deriving DecidableEq, Repr

namespace ConfigField

/-- The name of a field in a document. -/
def key : ConfigField → Text
  | rulesDir => "rules_dir".toList
  | missingValue => "missing_value".toList

def ofKey? (name : Text) : Option ConfigField :=
  if name = rulesDir.key then some rulesDir
  else if name = missingValue.key then some missingValue
  else none

/-- What a field's value has to be. -/
def expectation : ConfigField → Text
  | rulesDir => "path string".toList
  | missingValue => "a string".toList

end ConfigField

/-- Why an entry of a well-formed document does not fit a configuration. -/
inductive Misfit where
  | unknownField (name : Text)
  | wrongType (field : ConfigField) (value : Toml.Value)
  | integerOverflow
  | floatOverflow
  deriving Repr

/-! ## The words for a value -/

namespace Toml

/-- An integer in decimal. -/
def showInteger (number : Int) : Text :=
  if number < 0 then '-' :: Nat.toDigits 10 number.natAbs else Nat.toDigits 10 number.toNat

/-- A floating-point literal as the number that it is read as, if that is in range. -/
def FloatLiteral.show? : FloatLiteral → Option Text
  | finite negative magnitude =>
      (Binary64.ofDecimal? magnitude).map fun number =>
        (if negative then ['-'] else []) ++ number.shortest.positional
  | infinite negative => some (if negative then "-inf".toList else "inf".toList)
  | notANumber => some "NaN".toList

/-- The words for an integer, by the narrowest of the ranges that hold it:
64 bits with or without a sign, then 128 bits with and without. -/
def describeInteger? (number : Int) : Option Text :=
  let quoted := "integer \x60".toList ++ showInteger number ++ ['\x60']
  if -(twoTo 63 : Int) ≤ number ∧ number < twoTo 64 then some quoted
  else if -(twoTo 127 : Int) ≤ number ∧ number < twoTo 127 then
    some (quoted ++ " as i128".toList)
  else if 0 ≤ number ∧ number < twoTo 128 then some (quoted ++ " as u128".toList)
  else none

/-- The words for a value that is no string.  Numbers out of range have none. -/
def Value.describe? : Value → Option Text
  | string text => some ("string ".toList ++ text)
  | integer number => describeInteger? number
  | unreadable => none
  | float literal =>
      literal.show?.map fun shown => "floating point \x60".toList ++ shown ++ ['\x60']
  | boolean value => some ("boolean \x60".toList ++ Json.ofBool value ++ ['\x60'])
  | dateTime _ => some "map".toList
  | array _ => some "sequence".toList
  | inlineTable _ => some "map".toList
  | table .. => some "map".toList
  | tables _ => some "sequence".toList

end Toml

/-! ## Misfits -/

namespace Misfit

def message : Misfit → Text
  | unknownField name =>
      "unknown field \x60".toList ++ name ++
        "\x60, expected \x60rules_dir\x60 or \x60missing_value\x60".toList
  | wrongType field value =>
      "invalid type: ".toList ++ value.describe?.getD [] ++ ", expected ".toList ++
        field.expectation
  | integerOverflow => "integer number overflowed".toList
  | floatOverflow => "floating-point number overflowed".toList

/-- Why an entry does not fit, unless it does.  A number out of range is reported
as such, since it has no value to be of a wrong type. -/
def ofEntry? (entry : Text × Toml.Value) : Option Misfit :=
  match ConfigField.ofKey? entry.1, entry.2 with
  | none, _ => some (.unknownField entry.1)
  | some _, .string _ => none
  | some field, value =>
      match value.describe?, value with
      | some _, _ => some (.wrongType field value)
      | none, .float _ => some .floatOverflow
      | none, _ => some .integerOverflow

end Misfit

end RuleDigest

import RuleDigest.Decimal.Binary64
import RuleDigest.Text.Utf8

/-!
The values of a TOML document and the tables that they stand in.

A table remembers how it came about, because that decides which later lines may
add to it.
-/

namespace RuleDigest.Toml

inductive FloatLiteral where
  | finite (negative : Bool) (magnitude : Decimal)
  | infinite (negative : Bool)
  | notANumber
  deriving DecidableEq, Repr

/-- How a table came about. -/
inductive Origin where
  /-- By a header of its own, or as an element of an array of tables. -/
  | header
  /-- On the way to the table of a longer header. -/
  | implied
  /-- By a dotted key. -/
  | dotted
  deriving DecidableEq, Repr

inductive Value where
  | string (text : Text)
  | integer (number : Int)
  /-- A word that passes for an integer and stands for none: a radix mark without
  digits, or digits that run into something else after an underscore. -/
  | unreadable
  | float (literal : FloatLiteral)
  | boolean (value : Bool)
  /-- A date, a time or both, as written. -/
  | dateTime (text : Text)
  | array (items : List Value)
  /-- A table in braces, to which nothing can be added. -/
  | inlineTable (entries : List (Text × Value))
  | table (origin : Origin) (entries : List (Text × Value))
  | tables (elements : List (List (Text × Value)))
  deriving Repr

/-- The entries of a table, in the order in which their keys first occur. -/
abbrev Entries := List (Text × Value)

/-- A dotted key: its parts. -/
abbrev Key := List Text

end RuleDigest.Toml

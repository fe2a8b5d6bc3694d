import RuleDigest.Summary

/-!
Cutting a line of columns apart again.
-/

namespace RuleDigest.Summary

/-- The pieces of a line between separators, each of which is the first that can
be found from the left. -/
def cut : Text → List Text
  | [] => [[]]
  | ';' :: ' ' :: rest => [] :: cut rest
  | char :: rest =>
      match cut rest with
      | [] => [[char]]
      | piece :: others => (char :: piece) :: others

def separatorCount (line : Text) : Nat :=
  (cut line).length - 1

end RuleDigest.Summary

import RuleDigest.Pattern.Flaw
import RuleDigest.Text.Blank

/-!
A place in a written pattern and the steps from it to the next.
-/

namespace RuleDigest.Pattern

/-- A place in a written pattern. -/
structure Cursor where
  rest : Text
  /-- How many characters come before. -/
  offset : Nat
  /-- Blanks mean nothing here, and a `#` begins a comment. -/
  spaced : Bool
  deriving DecidableEq, Repr

namespace Cursor

/-- How many characters at the front are blanks or belong to comments. -/
def blanks : (inComment : Bool) → Text → Nat
  | _, [] => 0
  | true, char :: rest => blanks (char != '\n') rest + 1
  | false, char :: rest =>
      if isBlank char then blanks false rest + 1
      else if char = '#' then blanks true rest + 1
      else 0

/-- Go on by so many characters, at most to the end. -/
def skip (cursor : Cursor) (count : Nat) : Cursor :=
  { cursor with
    rest := cursor.rest.drop count
    offset := cursor.offset + min count cursor.rest.length }

/-- Go past what means nothing. -/
def settle (cursor : Cursor) : Cursor :=
  if cursor.spaced then cursor.skip (blanks false cursor.rest) else cursor

/-- Go past one character and then past what means nothing. -/
def advance (cursor : Cursor) : Cursor :=
  (cursor.skip 1).settle

/-- The empty span at a place. -/
def here (cursor : Cursor) : Span :=
  ⟨cursor.offset, cursor.offset⟩

def charSpan (cursor : Cursor) : Span :=
  ⟨cursor.offset, cursor.offset + 1⟩

/-- The span from a character up to a place. -/
def spanFrom (cursor : Cursor) (start : Nat) : Span :=
  ⟨start, cursor.offset⟩

theorem length_settle_le (cursor : Cursor) :
    cursor.settle.rest.length ≤ cursor.rest.length := by
  unfold settle
  split
  · simp [skip]
  · exact Nat.le_refl _

theorem length_advance_lt {cursor : Cursor} {char : Char} {rest : Text}
    (atChar : cursor.rest = char :: rest) :
    cursor.advance.rest.length < cursor.rest.length := by
  have settled := length_settle_le (cursor.skip 1)
  have skipped : (cursor.skip 1).rest.length < cursor.rest.length := by
    simp [skip, atChar]
  exact Nat.lt_of_le_of_lt settled skipped

/-- The characters up to one that is not wanted, and the place after them. -/
def takeWhile (wanted : Char → Bool) (cursor : Cursor) : Text × Cursor :=
  match _ : cursor.rest with
  | [] => ([], cursor)
  | char :: _ =>
      if wanted char then
        let (taken, after) := takeWhile wanted cursor.advance
        (char :: taken, after)
      else ([], cursor)
termination_by cursor.rest.length
decreasing_by exact length_advance_lt ‹_›

end Cursor

end RuleDigest.Pattern

import RuleDigest.Text.Utf8

/-!
Patterns of text and where they occur.

A pattern is matched by following all its ways through a text at once: of every
place in the text it is known whether the part of the pattern read so far can end
there.
-/

namespace RuleDigest

inductive CharSet where
  | empty
  | range (first last : Char)
  | union (first second : CharSet)
  | common (first second : CharSet)
  | complement (set : CharSet)
  /-- With every letter of the English alphabet also the other form of it. -/
  | caseless (set : CharSet)
  deriving DecidableEq, Repr

namespace CharSet

def contains : CharSet → Char → Bool
  | empty, _ => false
  | range first last, char => first ≤ char && char ≤ last
  | union first second, char => first.contains char || second.contains char
  | common first second, char => first.contains char && second.contains char
  | complement set, char => !set.contains char
  | caseless set, char =>
      set.contains char || set.contains char.toLower || set.contains char.toUpper

def single (char : Char) : CharSet :=
  range char char

def ofRanges : List (Char × Char) → CharSet
  | [] => empty
  | (first, last) :: rest => union (range first last) (ofRanges rest)

/-- The characters of the first set that are not in the second. -/
def without (first second : CharSet) : CharSet :=
  common first (complement second)

/-- The characters that are in one of two sets alone. -/
def apart (first second : CharSet) : CharSet :=
  without (union first second) (common first second)

/-- About how many steps of bytes it takes to tell the characters of a set. -/
def weight : CharSet → Nat
  | range first last =>
      if first = last then (Utf8.encode [first]).length
      else if last.toNat < 0x80 then 1
      else 12
  | set => if set.contains '\x80' then 12 else 1

end CharSet

/-- Where a place stands with regard to words. -/
inductive WordPlace where
  | boundary
  | noBoundary
  | start
  | finish
  /-- Not after a part of a word. -/
  | startHalf
  /-- Not before a part of a word. -/
  | finishHalf
  deriving DecidableEq, Repr

/-- A condition on a place between two characters.  Where `carriage` is set, a
carriage return ends a line too, and one with a line feed is one line end. -/
inductive Place where
  | textStart
  | textEnd
  | lineStart (carriage : Bool)
  | lineEnd (carriage : Bool)
  | word (place : WordPlace)
  deriving DecidableEq, Repr

namespace Place

def isWordPart (char? : Option Char) : Bool :=
  char?.any fun char => char.isAlphanum || char == '_'

/-- A condition holds between the character before and the one after. -/
def holds (before? after? : Option Char) : Place → Bool
  | textStart => before?.isNone
  | textEnd => after?.isNone
  | lineStart carriage =>
      before?.isNone || before? == some '\n' ||
        (carriage && before? == some '\r' && after? != some '\n')
  | lineEnd carriage =>
      after?.isNone ||
        if carriage then after? == some '\r' || (after? == some '\n' && before? != some '\r')
        else after? == some '\n'
  | word .boundary => isWordPart before? != isWordPart after?
  | word .noBoundary => isWordPart before? == isWordPart after?
  | word .start => !isWordPart before? && isWordPart after?
  | word .finish => isWordPart before? && !isWordPart after?
  | word .startHalf => !isWordPart before?
  | word .finishHalf => !isWordPart after?

end Place

/-- A pattern of text. -/
inductive Pattern where
  | empty
  | one (set : CharSet)
  | place (place : Place)
  | sequence (first second : Pattern)
  | choice (first second : Pattern)
  | repeated (least : Nat) (most? : Option Nat) (body : Pattern)
  deriving DecidableEq, Repr

namespace Pattern

/-- For every place in a text, from its start to its end, whether it is marked. -/
abbrev Marks := List Bool

/-- The places that are marked in one of two ways. -/
def either (first second : Marks) : Marks :=
  List.zipWith (· || ·) first second

/-- The characters around every place in a text. -/
def neighbours (text : Text) : List (Option Char × Option Char) :=
  (none :: text.map some).zip (text.map some ++ [none])

/-- Take a step so many times. -/
def rounds (step : Marks → Marks) : Nat → Marks → Marks
  | 0, marks => marks
  | count + 1, marks => rounds step count (step marks)

/-- Add the places that up to so many more steps lead to from the newest ones. -/
def spread (step : Marks → Marks) : Nat → (seen newest : Marks) → Marks
  | 0, seen, _ => seen
  | count + 1, seen, newest =>
      let fresh := List.zipWith (fun mark old => mark && !old) (step newest) seen
      if fresh.any id then spread step count (either seen fresh) fresh else seen

/-- The places where a pattern can end that begins at a marked place.  More rounds
of a repetition than there are places lead nowhere new, since one of them would
stand still. -/
def ends (text : Text) : Pattern → Marks → Marks
  | empty => id
  | one set => fun marks =>
      false :: List.zipWith (fun mark char => mark && set.contains char) marks text
  | place condition => fun marks =>
      List.zipWith (fun mark around => mark && condition.holds around.1 around.2) marks
        (neighbours text)
  | sequence first second => fun marks => ends text second (ends text first marks)
  | choice first second => fun marks => either (ends text first marks) (ends text second marks)
  | repeated least most? body => fun marks =>
      let bound := text.length + 1
      let marks := rounds (ends text body) (min least bound) marks
      spread (ends text body) (min ((most?.map (· - least)).getD bound) bound) marks marks

def occursIn (pattern : Pattern) (text : Text) : Bool :=
  (pattern.ends text (List.replicate (text.length + 1) true)).any id

/-- About how many steps a machine takes that follows a pattern byte by byte. -/
def weight : Pattern → Nat
  | empty => 1
  | one set => set.weight
  | place _ => 1
  | sequence first second => first.weight + second.weight
  | choice first second => first.weight + second.weight + 1
  | repeated least most? body =>
      match most? with
      | some most => most * body.weight + (most - least)
      | none => max least 1 * body.weight + 1

end Pattern

end RuleDigest

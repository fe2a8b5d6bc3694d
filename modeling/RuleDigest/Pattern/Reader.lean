import RuleDigest.Pattern.Bracket

/-!
Reading a written pattern.

It is read from left to right; what is open around a place, groups and the flags
in force before them, is kept innermost first.
-/

namespace RuleDigest.Pattern

/-- Why there is no pattern for a written one. -/
inductive Fault where
  | flawed (written : Text) (flaw : Flaw)
  | tooLarge
  /-- Word boundaries need a table of Unicode's letters. -/
  | wordsUnavailable
  deriving DecidableEq, Repr

/-- The most memory that a pattern may take, in bytes. -/
def memoryLimit : Nat := 10485760

/-- The memory that one step takes, in bytes. -/
def stepMemory : Nat := 32

def Fault.message : Fault → Text
  | flawed written flaw => flaw.message written
  | tooLarge =>
      "Compiled regex exceeds size limit of ".toList ++ Nat.toDigits 10 memoryLimit ++
        " bytes.".toList
  | wordsUnavailable => "error building NFA".toList

/-- The alternatives of a group so far, both they and the parts of the last one
latest first.  A part that only sets flags is no pattern. -/
structure Alternatives where
  before : List Pattern
  parts : List (Option Pattern)
  deriving DecidableEq, Repr

namespace Alternatives

/-- No alternatives and no parts. -/
def none : Alternatives :=
  ⟨[], []⟩

def add (alternatives : Alternatives) (part? : Option Pattern) : Alternatives :=
  { alternatives with parts := part? :: alternatives.parts }

def last (alternatives : Alternatives) : Pattern :=
  match alternatives.parts.filterMap id with
  | [] => .empty
  | part :: parts => parts.foldl (fun following part => .sequence part following) part

def another (alternatives : Alternatives) : Alternatives :=
  ⟨alternatives.last :: alternatives.before, []⟩

def pattern (alternatives : Alternatives) : Pattern :=
  alternatives.before.foldl (fun following one => .choice one following) alternatives.last

end Alternatives

/-- What is around a group. -/
structure Outer where
  alternatives : Alternatives
  mode : Mode
  spaced : Bool
  /-- The opening of the group. -/
  opening : Span
  deriving DecidableEq, Repr

structure Draft where
  cursor : Cursor
  mode : Mode
  alternatives : Alternatives
  outer : List Outer
  /-- The names of groups and where they are given. -/
  names : List (Text × Span)
  /-- Why a part has no meaning. -/
  flaw? : Option Flaw
  /-- Some part asks what is a word in Unicode. -/
  asksForWords : Bool
  deriving DecidableEq, Repr

namespace Draft

/-! ## Groups -/

/-- What the start of a look-around looks like. -/
def lookArounds : List Text :=
  ["?=".toList, "?!".toList, "?<=".toList, "?<!".toList]

/-- A character that the name of a group may begin with or contain. -/
def isNameChar (first : Bool) (char : Char) : Bool :=
  char == '_' || char.isAlpha || (char.toNat ≥ 0x80 && !isBlank char) ||
    (!first && (char.isDigit || ".[]".toList.contains char))

/-- Read the name of a group up to its closing mark: the place after it. -/
def groupName (cursor : Cursor) : Except Flaw (Text × Span × Cursor) :=
  let name := cursor.rest.takeWhile (· != '>')
  let sound := (name.take 1).takeWhile (isNameChar true) ++
    if (name.take 1).all (isNameChar true) then (name.drop 1).takeWhile (isNameChar false) else []
  let after := cursor.skip name.length
  let span := after.spanFrom cursor.offset
  if sound.length < name.length then
    .error (.single .nameChar (cursor.skip sound.length).charSpan)
  else if after.rest.isEmpty then .error (.single .nameCut after.here)
  else if name.isEmpty then .error (.single .nameEmpty cursor.here)
  else .ok (name, span, after.skip 1)

/-- A flag that is switched on or off, or the mark from which on they are off. -/
structure FlagItem where
  letter : Char
  span : Span
  deriving DecidableEq, Repr

/-- Read flags up to the character that ends them. -/
def flagItems : (items : List FlagItem) → Nat → Text → Except Flaw (List FlagItem)
  | _, offset, [] => .error (.single .flagCut ⟨offset, offset⟩)
  | items, offset, char :: rest =>
      let span : Span := ⟨offset, offset + 1⟩
      if char = ':' ∨ char = ')' then
        match items.getLast? with
        | some ⟨'-', span⟩ => .error (.single .flagDangling span)
        | _ => .ok items
      else if "-imsUuRx".toList.contains char then
        match items.find? (·.letter == char) with
        | some earlier =>
            let defect := if char = '-' then Defect.flagNegatedTwice else .flagTwice
            .error ⟨defect, span, some earlier.span⟩
        | none => flagItems (items ++ [⟨char, span⟩]) (offset + 1) rest
      else .error (.single .flagUnknown span)

/-- The mode and the meaning of blanks after flags. -/
def switched (mode : Mode) (spaced : Bool) (items : List FlagItem) : Mode × Bool :=
  let switch (value : Bool) (state : Mode × Bool) (item : FlagItem) : Mode × Bool :=
    if item.letter = 'x' then (state.1, value) else (state.1.switched item.letter value, state.2)
  let (on, off) := items.span (·.letter != '-')
  (off.tail.foldl (switch false) (on.foldl (switch true) (mode, spaced)))

/-- Go into a group in a mode of its own. -/
def enter (draft : Draft) (opening : Span) (cursor : Cursor) (mode : Mode) (spaced : Bool) :
    Draft :=
  { draft with
    cursor := { cursor with spaced }
    mode
    alternatives := .none
    outer := ⟨draft.alternatives, draft.mode, draft.cursor.spaced, opening⟩ :: draft.outer }

/-- Read the opening of a group, or flags for the rest of the one around. -/
def openGroup (draft : Draft) : Except Flaw Draft :=
  let opening := draft.cursor.charSpan
  let cursor := draft.cursor.advance
  let starts (mark : String) := mark.toList.isPrefixOf cursor.rest
  match lookArounds.find? (·.isPrefixOf cursor.rest) with
  | some mark =>
      .error (.single .lookAround ((cursor.skip mark.length).spanFrom opening.start))
  | none =>
      if starts "?P<" || starts "?<" then do
        let (name, span, after) ← groupName (cursor.skip (if starts "?<" then 2 else 3))
        match draft.names.lookup name with
        | some earlier => .error ⟨.nameTwice, span, some earlier⟩
        | none =>
            return { draft.enter opening after draft.mode cursor.spaced with
              names := (name, span) :: draft.names }
      else if starts "?" then
        let flags := cursor.skip 1
        if flags.rest.isEmpty then .error (.single .groupUnclosed opening)
        else do
          let items ← flagItems [] flags.offset flags.rest
          let after := flags.skip items.length
          let (mode, spaced) := switched draft.mode cursor.spaced items
          if after.rest.head? = some ':' then
            return draft.enter opening (after.skip 1) mode spaced
          else if items.isEmpty then .error (.single .operandMissing cursor.here)
          else
            let cursor := { after.skip 1 with spaced }
            return { draft with cursor, mode, alternatives := draft.alternatives.add none }
      else return draft.enter opening cursor draft.mode cursor.spaced

def closeGroup (draft : Draft) : Except Flaw Draft :=
  match draft.outer with
  | [] => .error (.single .groupUnopened draft.cursor.charSpan)
  | around :: outer =>
      .ok { draft with
        cursor := { draft.cursor.skip 1 with spaced := around.spaced }
        mode := around.mode
        alternatives := around.alternatives.add (some draft.alternatives.pattern)
        outer }

/-! ## Repetitions -/

/-- The part that an operator repeats, and the alternatives without it. -/
def operand (draft : Draft) : Except Flaw (Pattern × Alternatives) :=
  match draft.alternatives.parts with
  | some part :: parts => .ok (part, { draft.alternatives with parts })
  | _ => .error (.single .operandMissing draft.cursor.here)

/-- Go past a question mark, which asks for as few rounds as possible. -/
def skipLazy (cursor : Cursor) : Cursor :=
  if cursor.rest.head? = some '?' then cursor.skip 1 else cursor

/-- Repeat the last part, as an operator of one character says. -/
def repeatLast (draft : Draft) (least : Nat) (most? : Option Nat) : Except Flaw Draft := do
  let (part, alternatives) ← draft.operand
  return { draft with
    cursor := skipLazy (draft.cursor.skip 1)
    alternatives := alternatives.add (some (.repeated least most? part)) }

/-- Read a count, which blanks may surround: it, or why it is none, and the place
after it. -/
def count (cursor : Cursor) : Except Flaw Nat × Cursor :=
  let cursor := cursor.skip (cursor.rest.takeWhile isBlank).length
  let (digits, after) := cursor.takeWhile Char.isDigit
  let span := after.spanFrom cursor.offset
  let value := digits.foldl (fun value digit => value * 10 + (digit.toNat - '0'.toNat)) 0
  let read :=
    if digits.isEmpty then .error (.single .countEmpty span)
    else if value < 4294967296 then .ok value
    else .error (.single .decimalTooLarge span)
  (read, (after.takeWhile isBlank).2)

/-- Repeat the last part, as counts in braces say. -/
def repeatCounted (draft : Draft) : Except Flaw Draft := do
  let (part, alternatives) ← draft.operand
  let start := draft.cursor.offset
  let unclosed (cursor : Cursor) : Flaw := .single .countUnclosed (cursor.spanFrom start)
  let inside := draft.cursor.advance
  if inside.rest.isEmpty then throw (unclosed inside)
  let (least, after) := count inside
  if after.rest.isEmpty then throw (unclosed after)
  let (least, most?, after) ←
    if after.rest.head? = some ',' then
      let comma := after.advance
      if comma.rest.isEmpty then throw (unclosed comma)
      else if comma.rest.head? = some '\x7D' then pure (← least, none, comma)
      else
        let least ← least
        let (most, after) := count comma
        pure (least, some (← most), after)
    else
      let exact ← least
      pure (exact, some exact, after)
  if after.rest.head? ≠ some '\x7D' then throw (unclosed after)
  let cursor := skipLazy after.advance
  if most?.any (· < least) then throw (.single .countOrder (cursor.spanFrom start))
  return { draft with
    cursor, alternatives := alternatives.add (some (.repeated least most? part)) }

/-! ## Parts -/

/-- Add a part, or remember why it has no meaning unless another had none before. -/
def add (draft : Draft) (cursor : Cursor) (meaning : Meaning Pattern) : Draft :=
  match meaning with
  | .ok pattern => { draft with cursor, alternatives := draft.alternatives.add (some pattern) }
  | .error flaw =>
      { draft with
        cursor
        alternatives := draft.alternatives.add (some .empty)
        flaw? := draft.flaw?.or (some flaw) }

/-- Add a part that no other parts make up. -/
def addAtom (draft : Draft) (atom : Atom) (after : Cursor) : Draft :=
  let added := draft.add after (draft.mode.atom (after.spanFrom draft.cursor.offset) atom)
  match atom with
  | .place (.word _) => { added with asksForWords := draft.asksForWords || draft.mode.unicode }
  | _ => added

def addBrackets (draft : Draft) : Except Flaw Draft := do
  let (set, flaw?, after) ← brackets draft.mode draft.cursor
  return draft.add after <|
    match flaw? with
    | none => .ok (.one set)
    | some flaw => .error flaw

/-- Read the next part of a pattern. -/
def step (draft : Draft) : Except Flaw Draft :=
  let next := draft.cursor.skip 1
  match draft.cursor.rest with
  | [] => .ok draft
  | '(' :: _ => draft.openGroup
  | ')' :: _ => draft.closeGroup
  | '|' :: _ => .ok { draft with cursor := next, alternatives := draft.alternatives.another }
  | '[' :: _ => draft.addBrackets
  | '?' :: _ => draft.repeatLast 0 (some 1)
  | '*' :: _ => draft.repeatLast 0 none
  | '+' :: _ => draft.repeatLast 1 none
  | '\x7B' :: _ => draft.repeatCounted
  | '\\' :: _ => (escape draft.cursor).map fun (atom, after) => draft.addAtom atom after
  | '.' :: _ => .ok (draft.addAtom .dot next)
  | '^' :: _ => .ok (draft.addAtom .lineStart next)
  | '$' :: _ => .ok (draft.addAtom .lineEnd next)
  | char :: _ => .ok (draft.addAtom (.char char false) next)

/-- Read on up to the end. -/
def read (draft : Draft) : Except Flaw Draft :=
  let settled := { draft with cursor := draft.cursor.settle }
  if settled.cursor.rest.isEmpty then
    match draft.outer with
    | [] => .ok settled
    | around :: _ => .error (.single .groupUnclosed around.opening)
  else
    match settled.step with
    | .error flaw => .error flaw
    | .ok after =>
        if after.cursor.rest.length < draft.cursor.rest.length then read after
        else .ok after
termination_by draft.cursor.rest.length

end Draft

def ofText (written : Text) : Except Fault Pattern :=
  match Draft.read ⟨⟨written, 0, false⟩, .usual, .none, [], [], none, false⟩ with
  | .error flaw => .error (.flawed written flaw)
  | .ok draft =>
      match draft.flaw? with
      | some flaw => .error (.flawed written flaw)
      | none =>
          let pattern := draft.alternatives.pattern
          if draft.asksForWords then .error .wordsUnavailable
          else if pattern.weight * stepMemory > memoryLimit then .error .tooLarge
          else .ok pattern

end RuleDigest.Pattern

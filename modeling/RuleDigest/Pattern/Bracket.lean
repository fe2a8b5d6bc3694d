import RuleDigest.Pattern.Escape

/-!
Sets of characters in brackets.

Brackets may be nested, and sets may be joined by operators; what is open at a
place is kept innermost first.  A set without a meaning does not end the reading,
because a pattern that is not well-formed is refused for that first.
-/

namespace RuleDigest.Pattern

/-- How two sets are joined. -/
inductive Join where
  | intersection
  | difference
  | symmetricDifference
  deriving DecidableEq, Repr

/-- The set that two sets give when they are joined. -/
def Join.apply : Join → CharSet → CharSet → CharSet
  | intersection => .common
  | difference => .without
  | symmetricDifference => .apart

/-- The items of a set so far. -/
structure Members where
  set : CharSet
  /-- From the first item to the last. -/
  span : Span
  deriving DecidableEq, Repr

namespace Members

/-- No items yet, at a place. -/
def none (cursor : Cursor) : Members :=
  ⟨.empty, cursor.here⟩

/-- Add an item. -/
def add (members : Members) (set : CharSet) (span : Span) : Members :=
  ⟨.union members.set set, ⟨if members.set = .empty then span.start else members.span.start,
    span.stop⟩⟩

end Members

/-- Something that waits for a bracket to be closed. -/
inductive Waiting where
  /-- A set around the present one, and the opening of the present one. -/
  | outer (members : Members) (opening : Span) (negated : Bool)
  /-- The left side of an operator. -/
  | left (set : CharSet) (join : Join)
  deriving DecidableEq, Repr

/-- What has been read since the first bracket. -/
structure Brackets where
  cursor : Cursor
  members : Members
  waiting : List Waiting
  /-- Why a set has no meaning. -/
  flaw? : Option Flaw
  deriving DecidableEq, Repr

namespace Brackets

/-- The complaint that the innermost bracket is not closed. -/
def unclosed (waiting : List Waiting) : Flaw :=
  let opening? := waiting.findSome? fun
    | .outer _ opening _ => some opening
    | .left .. => none
  .single .setUnclosed (opening?.getD ⟨0, 0⟩)

/-- Take a meaning, or remember why there is none unless one was missing before. -/
def settle (flaw? : Option Flaw) : Meaning CharSet → CharSet × Option Flaw
  | .ok set => (set, flaw?)
  | .error flaw => (.empty, flaw?.or (some flaw))

/-- Add a set as an item of the present one. -/
def add (state : Brackets) (meaning : Meaning CharSet) (span : Span) (after : Cursor) : Brackets :=
  let (set, flaw?) := settle state.flaw? meaning
  { state with cursor := after, members := state.members.add set span, flaw? }

/-- Open a bracket, with what may stand first in it: a negation, hyphens, and a
closing bracket that closes nothing. -/
def opened (state : Brackets) : Except Flaw Brackets :=
  let start := state.cursor.offset
  let cut (cursor : Cursor) : Except Flaw Cursor :=
    if cursor.rest.isEmpty then .error (.single .setUnclosed (cursor.spanFrom start))
    else .ok cursor
  do
    let cursor ← cut state.cursor.advance
    let negated := cursor.rest.head? == some '^'
    let cursor ← if negated then cut cursor.advance else pure cursor
    let (hyphens, after) := cursor.takeWhile (· == '-')
    if after.rest.isEmpty then .error (.single .setUnclosed ⟨start, start⟩)
    else if hyphens.isEmpty && after.rest.head? == some ']' then
      let closing := (Members.none cursor).add (.single ']') cursor.charSpan
      let after ← cut after.advance
      return enter after closing start negated
    else if hyphens.isEmpty then return enter after (.none cursor) start negated
    else return enter after ((Members.none cursor).add (.single '-') cursor.charSpan) start negated
where
  /-- Go into the new bracket. -/
  enter (cursor : Cursor) (members : Members) (start : Nat) (negated : Bool) : Brackets :=
    { state with
      cursor
      members
      waiting := .outer state.members (cursor.spanFrom start) negated :: state.waiting }

/-- Join the present set to the left side that waits for it. -/
def joined (mode : Mode) (state : Brackets) : Brackets :=
  match state.waiting with
  | .left left join :: waiting =>
      let flaw? :=
        if mode.unicode && mode.caseless then
          state.flaw?.or (some (.single .caseUnavailable state.members.span))
        else state.flaw?
      { state with
        members := ⟨join.apply left state.members.set, state.members.span⟩, waiting, flaw? }
  | _ => state

/-- Close the innermost bracket: its set, if it is the last one. -/
def closed (mode : Mode) (state : Brackets) : Brackets × Option CharSet :=
  let state := state.joined mode
  let cursor := state.cursor.skip 1
  match state.waiting with
  | .outer outer opening negated :: waiting =>
      let span := cursor.spanFrom opening.start
      let (set, flaw?) := settle state.flaw? (mode.bracketed span state.members.set negated)
      let state := { state with cursor, waiting, flaw? }
      if waiting.isEmpty then (state, some set)
      else ({ state with members := outer.add set span }, none)
  | _ => (state, none)

/-- Wait for the right side of an operator of two characters. -/
def joining (mode : Mode) (join : Join) (state : Brackets) : Brackets :=
  let state := state.joined mode
  let cursor := state.cursor.skip 2
  { state with
    cursor, members := .none cursor, waiting := .left state.members.set join :: state.waiting }

/-- Read a class of ASCII by its name, from its bracket on, if one stands here. -/
def named? (cursor : Cursor) : Option (CharSet × Bool × Cursor) :=
  match cursor.rest with
  | '[' :: ':' :: rest =>
      let negated := rest.head? == some '^'
      let rest := if negated then rest.tail else rest
      let name := rest.takeWhile (· != ':')
      if ":]".toList.isPrefixOf (rest.drop name.length) then
        (asciiClass? name).map fun set =>
          (set, negated, cursor.skip (name.length + if negated then 5 else 4))
      else none
  | _ => none

/-- Read a character or an escape. -/
def item (cursor : Cursor) : Except Flaw (Atom × Cursor) :=
  match cursor.rest with
  | '\\' :: _ => escape cursor
  | char :: _ => .ok (.char char false, cursor.skip 1)
  | [] => .error (.single .setUnclosed cursor.here)

/-- The meaning of an item by itself. -/
def meaning (mode : Mode) (span : Span) : Atom → Except Flaw (Meaning CharSet)
  | .char char isByte => .ok (mode.member span char isByte)
  | .shorthand set negated => .ok (mode.shorthand span set negated)
  | .property reason => .ok (mode.property span reason)
  | _ => .error (.single .setEscape span)

/-- The character of an item at the end of a range. -/
def bound (span : Span) : Atom → Except Flaw (Char × Bool)
  | .char char isByte => .ok (char, isByte)
  | _ => .error (.single .rangeBound span)

/-- The meaning of a range, from what its two ends mean. -/
def rangeMeaning (first last : Char) : Meaning CharSet → Meaning CharSet → Meaning CharSet
  | .error flaw, _ => .error flaw
  | _, .error flaw => .error flaw
  | _, _ => .ok (.range first last)

/-- Read an item or a range of characters. -/
def range (mode : Mode) (state : Brackets) : Except Flaw Brackets := do
  let start := state.cursor.offset
  let (first, firstEnd) ← item state.cursor
  let firstSpan := firstEnd.spanFrom start
  let cursor := firstEnd.settle
  let next? := cursor.advance.rest.head?
  if cursor.rest.isEmpty then .error (unclosed state.waiting)
  else if cursor.rest.head? ≠ some '-' ∨ next? = some ']' ∨ next? = some '-' then
    return state.add (← meaning mode firstSpan first) firstSpan cursor
  else if cursor.advance.rest.isEmpty then .error (unclosed state.waiting)
  else
    let cursor := cursor.advance
    let (last, lastEnd) ← item cursor
    let lastSpan := lastEnd.spanFrom cursor.offset
    let span := lastEnd.spanFrom start
    let (firstChar, firstIsByte) ← bound firstSpan first
    let (lastChar, lastIsByte) ← bound lastSpan last
    if lastChar < firstChar then .error (.single .rangeOrder span)
    else
      let meaning := rangeMeaning firstChar lastChar
        (mode.member firstSpan firstChar firstIsByte) (mode.member lastSpan lastChar lastIsByte)
      return state.add meaning span lastEnd

/-- Read the next thing inside the brackets.  The set comes with the last bracket. -/
def step (mode : Mode) (state : Brackets) : Except Flaw (Brackets × Option CharSet) :=
  let state := { state with cursor := state.cursor.settle }
  match state.cursor.rest with
  | [] => .error (unclosed state.waiting)
  | '[' :: _ =>
      match named? state.cursor with
      | some (set, negated, after) =>
          let span := after.spanFrom state.cursor.offset
          .ok (state.add (mode.bracketed span set negated) span after, none)
      | none => state.opened.map fun state => (state, none)
  | ']' :: _ => .ok (state.closed mode)
  | '&' :: '&' :: _ => .ok (state.joining mode .intersection, none)
  | '-' :: '-' :: _ => .ok (state.joining mode .difference, none)
  | '~' :: '~' :: _ => .ok (state.joining mode .symmetricDifference, none)
  | _ => (state.range mode).map fun state => (state, none)

def read (mode : Mode) (state : Brackets) : Except Flaw (Brackets × CharSet) :=
  match state.step mode with
  | .error flaw => .error flaw
  | .ok (state, some set) => .ok (state, set)
  | .ok (after, none) =>
      if after.cursor.rest.length < state.cursor.rest.length then read mode after
      else .error (unclosed after.waiting)
termination_by state.cursor.rest.length

end Brackets

/-- Read a set from its first bracket on: the set, why it has no meaning if so,
and the place after it. -/
def brackets (mode : Mode) (cursor : Cursor) : Except Flaw (CharSet × Option Flaw × Cursor) := do
  let state ← Brackets.opened ⟨cursor, .none cursor, [], none⟩
  let (state, set) ← state.read mode
  return (set, state.flaw?, state.cursor)

end RuleDigest.Pattern

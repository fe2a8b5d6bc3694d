/-!
Byte strings, texts and the UTF-8 encoding between them.

`Utf8.items` reads a byte string one byte at a time.  It yields a character for
every well-formed sequence and a gap for every maximal ill-formed subsequence.
A strict reading (`decode?`) refuses gaps; a lossy one (`decodeLossy`) puts the
replacement character into each.
-/

namespace RuleDigest

/-- A byte string: a file's content, or a name as the file system keeps it. -/
abbrev Bytes := List UInt8

/-- A text: a sequence of Unicode scalar values. -/
abbrev Text := List Char

namespace Utf8

def encode (text : Text) : Bytes :=
  text.flatMap String.utf8EncodeChar

/-- The bytes of a text given as a literal. -/
abbrev ofString (text : String) : Bytes :=
  encode text.toList

/-- Where a reader stands between two bytes. -/
inductive State where
  /-- No sequence is open. -/
  | ready
  /-- A sequence is open.  `bits` are the payload bits read so far, the next
  byte has to lie in `low … high`, and `more` bytes follow that one. -/
  | pending (bits low high more : Nat)
  deriving DecidableEq, Repr

/-- What a byte that begins a sequence of several bytes asks for.  The first
continuation byte has a narrower range after four of the leads, which excludes
overlong forms, surrogates and values above U+10FFFF. -/
def lead? (byte : Nat) : Option State :=
  if 0xC2 ≤ byte ∧ byte ≤ 0xDF then some (.pending (byte - 0xC0) 0x80 0xBF 0)
  else if byte = 0xE0 then some (.pending 0 0xA0 0xBF 1)
  else if byte = 0xED then some (.pending 0xD 0x80 0x9F 1)
  else if 0xE1 ≤ byte ∧ byte ≤ 0xEF then some (.pending (byte - 0xE0) 0x80 0xBF 1)
  else if byte = 0xF0 then some (.pending 0 0x90 0xBF 2)
  else if 0xF1 ≤ byte ∧ byte ≤ 0xF3 then some (.pending (byte - 0xF0) 0x80 0xBF 2)
  else if byte = 0xF4 then some (.pending 4 0x80 0x8F 2)
  else none

/-- Read a byte while no sequence is open. -/
def start (byte : UInt8) : State × List (Option Char) :=
  if byte.toNat < 0x80 then (.ready, [some (Char.ofNat byte.toNat)])
  else match lead? byte.toNat with
    | some state => (state, [])
    | none => (.ready, [none])

/-- Read one byte.  A byte that cannot continue the open sequence closes it as
a gap and is read afresh. -/
def step : State → UInt8 → State × List (Option Char)
  | .ready, byte => start byte
  | .pending bits low high more, byte =>
      if low ≤ byte.toNat ∧ byte.toNat ≤ high then
        let bits := bits * 64 + (byte.toNat - 0x80)
        match more with
        | 0 => (.ready, [some (Char.ofNat bits)])
        | more + 1 => (.pending bits 0x80 0xBF more, [])
      else
        let (state, items) := start byte
        (state, none :: items)

/-- The end of the input leaves a gap where a sequence is still open. -/
def finish : State → List (Option Char)
  | .ready => []
  | .pending .. => [none]

/-- The characters and gaps of a byte string, read from a given state on. -/
def itemsFrom : State → Bytes → List (Option Char)
  | state, [] => finish state
  | state, byte :: rest => (step state byte).2 ++ itemsFrom (step state byte).1 rest

/-- The characters and gaps of a byte string. -/
def items (bytes : Bytes) : List (Option Char) :=
  itemsFrom .ready bytes

/-- The text that a byte string encodes, if it is well-formed throughout. -/
def decode? (bytes : Bytes) : Option Text :=
  (items bytes).mapM id

/-- The text of a byte string with U+FFFD for every gap. -/
def decodeLossy (bytes : Bytes) : Text :=
  (items bytes).map fun item => item.getD '\uFFFD'

end Utf8

end RuleDigest

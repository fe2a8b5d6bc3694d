import RuleDigest.Layout
import RuleDigest.Proofs.Text.Utf8

/-!
# Lossy reading of a byte string with a text after it

A sequence that is left open before the encoding of a text becomes one gap, as it
does at the end of the input.  So the lossy reading of a byte string does not
change when a text is appended.

The invariant is that an open sequence waits for a continuation byte, and no
character begins with one.
-/

namespace RuleDigest

namespace Utf8

/-- If a sequence is open, only a continuation byte goes on with it. -/
def AwaitsContinuation : State → Prop
  | .ready => True
  | .pending _ low high _ => 0x80 ≤ low ∧ high ≤ 0xBF

/-- The byte is no continuation byte. -/
def Begins (byte : UInt8) : Prop :=
  byte.toNat < 0x80 ∨ 0xBF < byte.toNat

theorem step_pending_gap {bits low high more : Nat} {byte : UInt8}
    (outside : ¬ (low ≤ byte.toNat ∧ byte.toNat ≤ high)) :
    step (.pending bits low high more) byte = ((start byte).1, none :: (start byte).2) :=
  if_neg outside

theorem awaitsContinuation_of_lead {byte : Nat} {state : State}
    (lead : lead? byte = some state) : AwaitsContinuation state := by
  rcases eq_of_lead? lead with ⟨bits, _, _, _, rfl⟩ | ⟨bits, _, _, rfl⟩ | ⟨bits, _, _, rfl⟩
  · exact ⟨Nat.le_refl _, Nat.le_refl _⟩
  · unfold AwaitsContinuation leastOfThree greatestOfThree
    constructor <;> split <;> decide
  · unfold AwaitsContinuation leastOfFour greatestOfFour
    constructor <;> split <;> decide

theorem start_awaitsContinuation (byte : UInt8) : AwaitsContinuation (start byte).1 := by
  unfold start
  split
  · trivial
  · split
    next state lead => exact awaitsContinuation_of_lead lead
    · trivial

theorem step_awaitsContinuation (state : State) (byte : UInt8) :
    AwaitsContinuation (step state byte).1 := by
  cases state with
  | ready => exact start_awaitsContinuation byte
  | pending bits low high more =>
      by_cases inRange : low ≤ byte.toNat ∧ byte.toNat ≤ high
      · cases more with
        | zero =>
            rw [step_pending_last inRange]
            trivial
        | succ more =>
            rw [step_pending_next inRange]
            exact ⟨Nat.le_refl _, Nat.le_refl _⟩
      · rw [step_pending_gap inRange]
        exact start_awaitsContinuation byte

/-- A byte that begins a character ends what is open before it. -/
theorem step_of_begins {state : State} (awaits : AwaitsContinuation state) {byte : UInt8}
    (begins : Begins byte) :
    step state byte = ((step .ready byte).1, finish state ++ (step .ready byte).2) := by
  cases state with
  | ready => rfl
  | pending bits low high more =>
      have outside : ¬ (low ≤ byte.toNat ∧ byte.toNat ≤ high) := by
        obtain ⟨least, greatest⟩ := awaits
        rcases begins with small | large
        · omega
        · omega
      exact step_pending_gap outside

theorem itemsFrom_append_of_begins {state : State} (awaits : AwaitsContinuation state)
    (bytes : Bytes) {byte : UInt8} (begins : Begins byte) (rest : Bytes) :
    itemsFrom state (bytes ++ byte :: rest) =
      itemsFrom state bytes ++ itemsFrom .ready (byte :: rest) := by
  induction bytes generalizing state with
  | nil =>
      rw [List.nil_append, itemsFrom_cons, itemsFrom_cons, step_of_begins awaits begins,
        List.append_assoc]
      rfl
  | cons first others inductionHypothesis =>
      rw [List.cons_append, itemsFrom_cons, itemsFrom_cons,
        inductionHypothesis (step_awaitsContinuation state first), List.append_assoc]

theorem exists_begins (char : Char) :
    ∃ byte tail, String.utf8EncodeChar char = byte :: tail ∧ Begins byte := by
  rcases Nat.lt_or_ge char.toNat 0x80 with small | large
  · refine ⟨_, _, encodeChar_one small, .inl ?_⟩
    rwa [toNat_ofNat_of_lt (Nat.lt_trans small (by decide))]
  · obtain ⟨byte, tail, bits, low, high, more, encoded, _, lead, _⟩ := encodeChar_of_large large
    refine ⟨byte, tail, encoded, .inr ?_⟩
    rcases eq_of_lead? lead with ⟨_, _, _, same, _⟩ | ⟨_, _, same, _⟩ | ⟨_, _, same, _⟩
    · omega
    · omega
    · omega

theorem items_append_encode (bytes : Bytes) (text : Text) :
    items (bytes ++ encode text) = items bytes ++ text.map some := by
  cases text with
  | nil =>
      rw [encode, List.flatMap_nil, List.append_nil, List.map_nil, List.append_nil]
  | cons char rest =>
      obtain ⟨byte, tail, encoded, begins⟩ := exists_begins char
      have split : encode (char :: rest) = byte :: (tail ++ encode rest) := by
        rw [encode, List.flatMap_cons, encoded, List.cons_append]
        rfl
      have ready : AwaitsContinuation .ready := trivial
      rw [← items_encode, split]
      exact itemsFrom_append_of_begins ready bytes begins _

/-- What stands before a text is read as it is without the text. -/
theorem decodeLossy_append_encode (bytes : Bytes) (text : Text) :
    decodeLossy (bytes ++ encode text) = decodeLossy bytes ++ text := by
  simp [decodeLossy, items_append_encode, Function.comp_def]

theorem suffix_decodeLossy {bytes : Bytes} {text : Text} (suffix : encode text <:+ bytes) :
    text <:+ decodeLossy bytes := by
  obtain ⟨before, rfl⟩ := suffix
  rw [decodeLossy_append_encode]
  exact List.suffix_append _ _

theorem decodeLossy_encode (text : Text) : decodeLossy (encode text) = text :=
  decodeLossy_append_encode [] text

end Utf8

/-- The result file of a rule is shown by the name that the rule's shown name leads to. -/
theorem Rule.decodeLossy_resultFileName (rule : Rule) :
    Utf8.decodeLossy rule.resultFileName = Layout.resultFileName rule.displayName :=
  Utf8.decodeLossy_append_encode rule.name Layout.resultSuffix

theorem Rule.displayName_injective_of_utf8 {rule other : Rule} {text otherText : Text}
    (encoded : rule.name = Utf8.encode text) (otherEncoded : other.name = Utf8.encode otherText)
    (alike : rule.displayName = other.displayName) : rule = other := by
  rw [displayName, displayName, encoded, otherEncoded, Utf8.decodeLossy_encode,
    Utf8.decodeLossy_encode] at alike
  have sameName : rule.name = other.name := by rw [encoded, otherEncoded, alike]
  cases rule
  cases other
  rwa [Rule.mk.injEq]

end RuleDigest

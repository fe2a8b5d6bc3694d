import RuleDigest.Text.Utf8

/-!
# Reading UTF-8 undoes writing it

A byte string is read as a text exactly when it is the encoding of that text, so
the strict reading accepts the well-formed byte strings and no others.

The invariant says what the bytes of an open sequence are worth: whatever
completes them makes them the encoding of the character that the payload bits
add up to.
-/

namespace RuleDigest.Utf8

/-! ## Characters by the range of their numbers -/

theorem toNat_ofNat_of_valid (number : Nat) (valid : number.isValidChar) :
    (Char.ofNat number).toNat = number := by
  rw [Char.ofNat, dif_pos valid]
  rfl

theorem valid_toNat (char : Char) :
    char.toNat < 0xD800 ∨ (0xDFFF < char.toNat ∧ char.toNat < 0x110000) :=
  char.valid

theorem encodeChar_one {char : Char} (high : char.toNat < 0x80) :
    String.utf8EncodeChar char = [UInt8.ofNat char.toNat] := by
  have one : char.val.toNat ≤ 0x7F := Nat.le_of_lt_succ high
  simp only [String.utf8EncodeChar, one, if_true]
  rfl

theorem encodeChar_two {char : Char} (low : 0x80 ≤ char.toNat) (high : char.toNat < 0x800) :
    String.utf8EncodeChar char =
      [UInt8.ofNat (char.toNat / 64 + 0xC0), UInt8.ofNat (char.toNat % 64 + 0x80)] := by
  have notOne : ¬ char.val.toNat ≤ 0x7F := Nat.not_le.2 low
  have two : char.val.toNat ≤ 0x7FF := Nat.le_of_lt_succ high
  have reduced : char.val.toNat / 64 % 0x20 = char.val.toNat / 64 :=
    Nat.mod_eq_of_lt (by omega)
  simp only [String.utf8EncodeChar, notOne, two, if_true, if_false, reduced]
  rfl

theorem encodeChar_three {char : Char} (low : 0x800 ≤ char.toNat)
    (high : char.toNat < 0x10000) :
    String.utf8EncodeChar char =
      [UInt8.ofNat (char.toNat / 4096 + 0xE0), UInt8.ofNat (char.toNat / 64 % 64 + 0x80),
        UInt8.ofNat (char.toNat % 64 + 0x80)] := by
  have atLeast : 0x800 ≤ char.val.toNat := low
  have notOne : ¬ char.val.toNat ≤ 0x7F := by omega
  have notTwo : ¬ char.val.toNat ≤ 0x7FF := by omega
  have three : char.val.toNat ≤ 0xFFFF := Nat.le_of_lt_succ high
  have reduced : char.val.toNat / 4096 % 0x10 = char.val.toNat / 4096 :=
    Nat.mod_eq_of_lt (by omega)
  simp only [String.utf8EncodeChar, notOne, notTwo, three, if_true, if_false, reduced]
  rfl

theorem encodeChar_four {char : Char} (low : 0x10000 ≤ char.toNat) :
    String.utf8EncodeChar char =
      [UInt8.ofNat (char.toNat / 262144 + 0xF0), UInt8.ofNat (char.toNat / 4096 % 64 + 0x80),
        UInt8.ofNat (char.toNat / 64 % 64 + 0x80), UInt8.ofNat (char.toNat % 64 + 0x80)] := by
  have atLeast : 0x10000 ≤ char.val.toNat := low
  have atMost : char.val.toNat < 0x110000 := by
    rcases char.valid with below | ⟨_, below⟩
    · exact Nat.lt_trans below (by decide)
    · exact below
  have notOne : ¬ char.val.toNat ≤ 0x7F := by omega
  have notTwo : ¬ char.val.toNat ≤ 0x7FF := by omega
  have notThree : ¬ char.val.toNat ≤ 0xFFFF := by omega
  have reduced : char.val.toNat / 262144 % 0x08 = char.val.toNat / 262144 :=
    Nat.mod_eq_of_lt (by omega)
  simp only [String.utf8EncodeChar, notOne, notTwo, notThree, if_false, reduced]
  rfl

/-! ## Steps -/

theorem itemsFrom_cons (state : State) (byte : UInt8) (rest : Bytes) :
    itemsFrom state (byte :: rest) =
      (step state byte).2 ++ itemsFrom (step state byte).1 rest := rfl

theorem step_ready_ascii {byte : UInt8} (small : byte.toNat < 0x80) :
    step .ready byte = (.ready, [some (Char.ofNat byte.toNat)]) :=
  if_pos small

theorem step_ready_lead {byte : UInt8} {state : State} (large : 0x80 ≤ byte.toNat)
    (lead : lead? byte.toNat = some state) : step .ready byte = (state, []) := by
  change start byte = _
  rw [start, if_neg (Nat.not_lt.2 large), lead]

theorem step_pending_last {bits low high : Nat} {byte : UInt8}
    (inRange : low ≤ byte.toNat ∧ byte.toNat ≤ high) :
    step (.pending bits low high 0) byte =
      (.ready, [some (Char.ofNat (bits * 64 + (byte.toNat - 0x80)))]) :=
  if_pos inRange

theorem step_pending_next {bits low high more : Nat} {byte : UInt8}
    (inRange : low ≤ byte.toNat ∧ byte.toNat ≤ high) :
    step (.pending bits low high (more + 1)) byte =
      (.pending (bits * 64 + (byte.toNat - 0x80)) 0x80 0xBF more, []) :=
  if_pos inRange

/-! ## Open sequences -/

/-- The bytes that complete an open sequence: one in a given range, and as many
continuation bytes after it as are missing. -/
inductive Completes : Nat → Nat → Nat → Bytes → Prop where
  | last {low high : Nat} {byte : UInt8} :
      low ≤ byte.toNat ∧ byte.toNat ≤ high → Completes low high 0 [byte]
  | next {low high more : Nat} {byte : UInt8} {rest : Bytes} :
      low ≤ byte.toNat ∧ byte.toNat ≤ high → Completes 0x80 0xBF more rest →
      Completes low high (more + 1) (byte :: rest)

/-- The number that payload bits and the continuation bytes after them add up to. -/
def assemble (bits : Nat) (tail : Bytes) : Nat :=
  tail.foldl (fun bits byte => bits * 64 + (byte.toNat - 0x80)) bits

theorem itemsFrom_completes {bits low high more : Nat} {tail : Bytes}
    (completes : Completes low high more tail) (rest : Bytes) :
    itemsFrom (.pending bits low high more) (tail ++ rest) =
      some (Char.ofNat (assemble bits tail)) :: itemsFrom .ready rest := by
  induction completes generalizing bits with
  | last inRange =>
      rw [List.singleton_append, itemsFrom_cons, step_pending_last inRange]
      rfl
  | next inRange _ inductionHypothesis =>
      rw [List.cons_append, itemsFrom_cons, step_pending_next inRange, List.nil_append,
        inductionHypothesis, assemble, assemble, List.foldl_cons]

/-! ## Leads -/

/-- The least second byte of a sequence of three bytes, which excludes overlong forms. -/
def leastOfThree (bits : Nat) : Nat := if bits = 0 then 0xA0 else 0x80

/-- The greatest second byte of a sequence of three bytes, which excludes surrogates. -/
def greatestOfThree (bits : Nat) : Nat := if bits = 0xD then 0x9F else 0xBF

/-- The least second byte of a sequence of four bytes, which excludes overlong forms. -/
def leastOfFour (bits : Nat) : Nat := if bits = 0 then 0x90 else 0x80

/-- The greatest second byte of a sequence of four bytes, which excludes numbers above
U+10FFFF. -/
def greatestOfFour (bits : Nat) : Nat := if bits = 4 then 0x8F else 0xBF

theorem lead?_two :
    ∀ bits < 32, 2 ≤ bits → lead? (bits + 0xC0) = some (.pending bits 0x80 0xBF 0) := by
  decide

theorem lead?_three :
    ∀ bits < 16, lead? (bits + 0xE0) =
      some (.pending bits (leastOfThree bits) (greatestOfThree bits) 1) := by
  decide

theorem lead?_four :
    ∀ bits < 5, lead? (bits + 0xF0) =
      some (.pending bits (leastOfFour bits) (greatestOfFour bits) 2) := by
  decide

/-- A lead begins a sequence of two, three or four bytes. -/
theorem eq_of_lead? {byte : Nat} {state : State} (lead : lead? byte = some state) :
    (∃ bits, 2 ≤ bits ∧ bits < 32 ∧ byte = bits + 0xC0 ∧
      state = .pending bits 0x80 0xBF 0) ∨
    (∃ bits < 16, byte = bits + 0xE0 ∧
      state = .pending bits (leastOfThree bits) (greatestOfThree bits) 1) ∨
    ∃ bits < 5, byte = bits + 0xF0 ∧
      state = .pending bits (leastOfFour bits) (greatestOfFour bits) 2 := by
  have bounds : 0xC2 ≤ byte ∧ byte ≤ 0xF4 := by
    unfold lead? at lead
    grind
  rcases Nat.lt_or_ge byte 0xE0 with two | notTwo
  · obtain ⟨bits, rfl⟩ := Nat.exists_eq_add_of_le' (show 0xC0 ≤ byte by omega)
    rw [lead?_two bits (by omega) (by omega), Option.some_inj] at lead
    exact .inl ⟨bits, by omega, by omega, rfl, lead.symm⟩
  · rcases Nat.lt_or_ge byte 0xF0 with three | notThree
    · obtain ⟨bits, rfl⟩ := Nat.exists_eq_add_of_le' notTwo
      rw [lead?_three bits (by omega), Option.some_inj] at lead
      exact .inr (.inl ⟨bits, by omega, rfl, lead.symm⟩)
    · obtain ⟨bits, rfl⟩ := Nat.exists_eq_add_of_le' notThree
      rw [lead?_four bits (by omega), Option.some_inj] at lead
      exact .inr (.inr ⟨bits, by omega, rfl, lead.symm⟩)

/-! ## Encodings are read back -/

theorem toNat_ofNat_of_lt {number : Nat} (small : number < 256) :
    (UInt8.ofNat number).toNat = number := by
  rw [UInt8.toNat_ofNat', Nat.mod_eq_of_lt small]

/-- A character of several bytes begins with a lead, and the bytes after it complete
what the lead asks for. -/
theorem encodeChar_of_large {char : Char} (large : 0x80 ≤ char.toNat) :
    ∃ (byte : UInt8) (tail : Bytes) (bits low high more : Nat),
      String.utf8EncodeChar char = byte :: tail ∧ 0x80 ≤ byte.toNat ∧
        lead? byte.toNat = some (.pending bits low high more) ∧
        Completes low high more tail ∧ assemble bits tail = char.toNat := by
  have valid := valid_toNat char
  have third : (UInt8.ofNat (char.toNat / 4096 % 64 + 0x80)).toNat =
      char.toNat / 4096 % 64 + 0x80 := toNat_ofNat_of_lt (by omega)
  have second : (UInt8.ofNat (char.toNat / 64 % 64 + 0x80)).toNat =
      char.toNat / 64 % 64 + 0x80 := toNat_ofNat_of_lt (by omega)
  have first : (UInt8.ofNat (char.toNat % 64 + 0x80)).toNat = char.toNat % 64 + 0x80 :=
    toNat_ofNat_of_lt (by omega)
  rcases Nat.lt_or_ge char.toNat 0x800 with two | notTwo
  · have lead : (UInt8.ofNat (char.toNat / 64 + 0xC0)).toNat = char.toNat / 64 + 0xC0 :=
      toNat_ofNat_of_lt (by omega)
    have asked := lead?_two (char.toNat / 64) (by omega) (by omega)
    rw [← lead] at asked
    refine ⟨_, _, _, _, _, _, encodeChar_two large two, by omega, asked, ?_, ?_⟩
    · exact .last (by omega)
    · simp only [assemble, List.foldl_cons, List.foldl_nil, first]
      omega
  · rcases Nat.lt_or_ge char.toNat 0x10000 with three | notThree
    · have lead : (UInt8.ofNat (char.toNat / 4096 + 0xE0)).toNat = char.toNat / 4096 + 0xE0 :=
        toNat_ofNat_of_lt (by omega)
      have asked := lead?_three (char.toNat / 4096) (by omega)
      rw [← lead] at asked
      refine ⟨_, _, _, _, _, _, encodeChar_three notTwo three, by omega, asked, ?_, ?_⟩
      · refine .next ?_ (.last (by omega))
        unfold leastOfThree greatestOfThree
        constructor <;> split <;> omega
      · simp only [assemble, List.foldl_cons, List.foldl_nil, first, second]
        omega
    · have lead : (UInt8.ofNat (char.toNat / 262144 + 0xF0)).toNat =
          char.toNat / 262144 + 0xF0 := toNat_ofNat_of_lt (by omega)
      have asked := lead?_four (char.toNat / 262144) (by omega)
      rw [← lead] at asked
      refine ⟨_, _, _, _, _, _, encodeChar_four notThree, by omega, asked, ?_, ?_⟩
      · refine .next ?_ (.next (by omega) (.last (by omega)))
        unfold leastOfFour greatestOfFour
        constructor <;> split <;> omega
      · simp only [assemble, List.foldl_cons, List.foldl_nil, first, second, third]
        omega

theorem itemsFrom_encodeChar (char : Char) (rest : Bytes) :
    itemsFrom .ready (String.utf8EncodeChar char ++ rest) = some char :: itemsFrom .ready rest := by
  rcases Nat.lt_or_ge char.toNat 0x80 with small | large
  · have read : (UInt8.ofNat char.toNat).toNat = char.toNat := toNat_ofNat_of_lt (by omega)
    rw [encodeChar_one small, List.singleton_append, itemsFrom_cons,
      step_ready_ascii (read.symm ▸ small), read, Char.ofNat_toNat]
    rfl
  · obtain ⟨byte, tail, bits, low, high, more, encoded, notSmall, lead, completes, number⟩ :=
      encodeChar_of_large large
    rw [encoded, List.cons_append, itemsFrom_cons, step_ready_lead notSmall lead,
      List.nil_append, itemsFrom_completes completes, number, Char.ofNat_toNat]

/-- The encoding of a text is read as its characters, without gaps. -/
theorem items_encode (text : Text) : items (encode text) = text.map some := by
  unfold items encode
  induction text with
  | nil => rfl
  | cons char rest inductionHypothesis =>
      rw [List.flatMap_cons, itemsFrom_encodeChar, inductionHypothesis, List.map_cons]

/-! ## What is read is an encoding -/

/-- The bytes of an open sequence become the encoding of a character with whatever
completes them. -/
def Holds : State → Bytes → Prop
  | .ready, opened => opened = []
  | .pending bits low high more, opened =>
      ∀ tail, Completes low high more tail →
        opened ++ tail = String.utf8EncodeChar (Char.ofNat (assemble bits tail))

theorem eq_ofNat_of_toNat {byte : UInt8} {number : Nat} (same : byte.toNat = number) :
    byte = UInt8.ofNat number := by
  rw [← same, UInt8.ofNat_toNat]

/-- Whatever completes a lead makes up a character that is encoded so. -/
theorem holds_of_lead {byte : UInt8} {state : State} (lead : lead? byte.toNat = some state) :
    Holds state [byte] := by
  rcases eq_of_lead? lead with ⟨bits, atLeast, small, same, rfl⟩ | ⟨bits, small, same, rfl⟩ |
    ⟨bits, small, same, rfl⟩
  · rintro _ (@⟨_, _, last, inRange⟩)
    have number := toNat_ofNat_of_valid (bits * 64 + (last.toNat - 0x80))
      (.inl (by omega))
    simp only [assemble, List.foldl_cons, List.foldl_nil]
    rw [encodeChar_two (by omega) (by omega), number]
    simp only [List.singleton_append, List.cons.injEq, and_true]
    exact ⟨eq_ofNat_of_toNat (by omega), eq_ofNat_of_toNat (by omega)⟩
  · rintro _ (_ | @⟨_, _, _, second, _, secondInRange, @⟨_, _, last, inRange⟩⟩)
    have ranges : (bits = 0 → 0xA0 ≤ second.toNat) ∧ (bits = 0xD → second.toNat ≤ 0x9F) ∧
        0x80 ≤ second.toNat ∧ second.toNat ≤ 0xBF := by
      grind [leastOfThree, greatestOfThree]
    have number := toNat_ofNat_of_valid
      ((bits * 64 + (second.toNat - 0x80)) * 64 + (last.toNat - 0x80))
      (by unfold Nat.isValidChar; omega)
    simp only [assemble, List.foldl_cons, List.foldl_nil]
    rw [encodeChar_three (by omega) (by omega), number]
    simp only [List.singleton_append, List.cons.injEq, and_true]
    exact ⟨eq_ofNat_of_toNat (by omega), eq_ofNat_of_toNat (by omega),
      eq_ofNat_of_toNat (by omega)⟩
  · rintro _ (_ | @⟨_, _, _, second, _, secondInRange,
      _ | @⟨_, _, _, third, _, thirdInRange, @⟨_, _, last, inRange⟩⟩⟩)
    have ranges : (bits = 0 → 0x90 ≤ second.toNat) ∧ (bits = 4 → second.toNat ≤ 0x8F) ∧
        0x80 ≤ second.toNat ∧ second.toNat ≤ 0xBF := by
      grind [leastOfFour, greatestOfFour]
    have number := toNat_ofNat_of_valid
      (((bits * 64 + (second.toNat - 0x80)) * 64 + (third.toNat - 0x80)) * 64 +
        (last.toNat - 0x80))
      (by unfold Nat.isValidChar; omega)
    simp only [assemble, List.foldl_cons, List.foldl_nil]
    rw [encodeChar_four (by omega), number]
    simp only [List.singleton_append, List.cons.injEq, and_true]
    exact ⟨eq_ofNat_of_toNat (by omega), eq_ofNat_of_toNat (by omega),
      eq_ofNat_of_toNat (by omega), eq_ofNat_of_toNat (by omega)⟩

/-- Items without gaps begin with no gap. -/
theorem not_gap_first {items : List (Option Char)} {text : Text} :
    none :: items ≠ text.map some := by
  cases text <;> simp

/-- A step that meets no gap turns what is open into the encoding of the characters it
yields, up to what is open after it. -/
theorem step_holds {state : State} {opened : Bytes} (held : Holds state opened) (byte : UInt8)
    {text : Text} (clean : (step state byte).2 = text.map some) :
    ∃ left, Holds (step state byte).1 left ∧ opened ++ [byte] = encode text ++ left := by
  cases state with
  | ready =>
      obtain rfl : opened = [] := held
      rcases Nat.lt_or_ge byte.toNat 0x80 with small | large
      · rw [step_ready_ascii small] at clean ⊢
        obtain ⟨char, rfl, same⟩ := List.map_eq_singleton_iff.1 clean.symm
        obtain rfl := Option.some_inj.1 same
        have number := toNat_ofNat_of_valid byte.toNat (.inl (by omega))
        refine ⟨[], rfl, ?_⟩
        rw [encode, List.flatMap_singleton, encodeChar_one (by omega), number,
          UInt8.ofNat_toNat]
        rfl
      · cases found : lead? byte.toNat with
        | none =>
            have gap : step .ready byte = (.ready, [none]) := by
              change start byte = _
              rw [start, if_neg (Nat.not_lt.2 large), found]
            rw [gap] at clean
            exact absurd clean not_gap_first
        | some state =>
            rw [step_ready_lead large found] at clean ⊢
            obtain rfl := List.map_eq_nil_iff.1 clean.symm
            exact ⟨[byte], holds_of_lead found, rfl⟩
  | pending bits low high more =>
      by_cases inRange : low ≤ byte.toNat ∧ byte.toNat ≤ high
      · cases more with
        | zero =>
            rw [step_pending_last inRange] at clean ⊢
            obtain ⟨char, rfl, same⟩ := List.map_eq_singleton_iff.1 clean.symm
            have promised := held [byte] (.last inRange)
            rw [assemble, List.foldl_cons, List.foldl_nil, ← Option.some.inj same] at promised
            refine ⟨[], rfl, ?_⟩
            rw [promised, encode, List.flatMap_singleton, List.append_nil]
        | succ more =>
            rw [step_pending_next inRange] at clean ⊢
            obtain rfl := List.map_eq_nil_iff.1 clean.symm
            refine ⟨opened ++ [byte], ?_, rfl⟩
            intro tail completes
            have promised := held (byte :: tail) (.next inRange completes)
            rw [assemble, List.foldl_cons] at promised
            rw [List.append_assoc, List.singleton_append, promised, assemble]
      · have gap : (step (.pending bits low high more) byte).2 = none :: (start byte).2 := by
          simp only [step, if_neg inRange]
        rw [gap] at clean
        exact absurd clean not_gap_first

/-- Bytes without gaps are, with what is open before them, the encoding of the characters
read. -/
theorem encode_of_itemsFrom {state : State} {opened bytes : Bytes} {text : Text}
    (held : Holds state opened) (clean : itemsFrom state bytes = text.map some) :
    opened ++ bytes = encode text := by
  induction bytes generalizing state opened text with
  | nil =>
      cases state with
      | ready =>
          obtain rfl : opened = [] := held
          obtain rfl := List.map_eq_nil_iff.1 (show text.map some = [] from clean.symm)
          rfl
      | pending bits low high more =>
          exact absurd clean not_gap_first
  | cons byte rest inductionHypothesis =>
      rw [itemsFrom_cons] at clean
      obtain ⟨first, later, rfl, firstClean, laterClean⟩ := List.append_eq_map_iff.1 clean
      obtain ⟨left, leftHeld, turned⟩ := step_holds held byte firstClean.symm
      have continued := inductionHypothesis leftHeld laterClean.symm
      calc
        opened ++ byte :: rest = (opened ++ [byte]) ++ rest := by simp
        _ = encode first ++ (left ++ rest) := by rw [turned, List.append_assoc]
        _ = encode first ++ encode later := by rw [continued]
        _ = encode (first ++ later) := by rw [encode, encode, encode, List.flatMap_append]

theorem mapM_id_eq_some_iff {items : List (Option Char)} {text : Text} :
    items.mapM id = some text ↔ items = text.map some := by
  induction items generalizing text with
  | nil => cases text <;> simp
  | cons item rest inductionHypothesis =>
      cases item with
      | none => simp [not_gap_first]
      | some char =>
          cases text with
          | nil => cases read : rest.mapM id <;> simp [read]
          | cons first others =>
              rw [List.map_cons, List.cons.injEq, ← inductionHypothesis]
              cases read : rest.mapM id <;> simp [read]

/-- The strict reading of a byte string yields a text exactly when the byte string is the
encoding of that text. -/
theorem decode?_eq_some_iff {bytes : Bytes} {text : Text} :
    decode? bytes = some text ↔ bytes = encode text := by
  rw [decode?, mapM_id_eq_some_iff]
  constructor
  · intro clean
    have nothingOpen : Holds .ready [] := rfl
    exact encode_of_itemsFrom nothingOpen clean
  · rintro rfl
    exact items_encode text

theorem mapM_decode?_eq_some_iff {values : List Bytes} {texts : List Text} :
    values.mapM decode? = some texts ↔ values = texts.map encode := by
  induction values generalizing texts with
  | nil => cases texts <;> simp
  | cons value rest inductionHypothesis =>
      cases texts with
      | nil => simp [Option.bind_eq_some_iff]
      | cons text others => simp [Option.bind_eq_some_iff, decode?_eq_some_iff, inductionHypothesis]

theorem items_ne_nil (byte : UInt8) (rest : Bytes) : items (byte :: rest) ≠ [] := by
  intro nothing
  have decoded : decode? (byte :: rest) = some [] := by
    rw [decode?, nothing]
    rfl
  cases decode?_eq_some_iff.1 decoded

/-- Different texts have different encodings. -/
theorem encode_injective {first second : Text} (same : encode first = encode second) :
    first = second := by
  have read := decode?_eq_some_iff.2 same
  rw [decode?_eq_some_iff.2 rfl, Option.some_inj] at read
  exact read

end RuleDigest.Utf8

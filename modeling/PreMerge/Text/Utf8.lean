/-! Reading UTF-8 with everything ill-formed left out. A byte that cannot go on the sequence begun before
it ends that sequence, which is dropped, and is looked at afresh. So no byte below 0x80 is ever swallowed:
a text may be cut at such bytes and its parts read one by one. -/

namespace PreMerge.Text.Utf8

/-- Where the reader stands between two bytes. -/
inductive State
  | start
  /-- After the first byte of a sequence. -/
  | lead (first : UInt8)
  /-- A further byte completes the value if none is owed after it. -/
  | tail (value owed : Nat)
  deriving DecidableEq, Repr

/-- Bytes owed after a first byte, which lies between C2 and F4. -/
def owedAfter (first : UInt8) : Nat :=
  if first < 0xE0 then 1 else if first < 0xF0 then 2 else 3

/-- The bits that a first byte gives to the value. -/
def leadBits (first : UInt8) : Nat :=
  if first < 0xE0 then first.toNat - 0xC0 else if first < 0xF0 then first.toNat - 0xE0
  else first.toNat - 0xF0

/-- Whether a byte may come second: overlong forms, surrogates and values beyond the last character
are excluded here. -/
def follows (first second : UInt8) : Bool :=
  (if first = 0xE0 then 0xA0 else if first = 0xF0 then 0x90 else 0x80) ≤ second &&
    second ≤ (if first = 0xED then 0x9F else if first = 0xF4 then 0x8F else 0xBF)

/-- Whether a byte may come third or fourth. -/
def continues (byte : UInt8) : Bool :=
  0x80 ≤ byte && byte ≤ 0xBF

/-- A byte read from the start. -/
def begin (byte : UInt8) : List Char × State :=
  if byte < 0x80 then ([Char.ofNat byte.toNat], .start)
  else if 0xC2 ≤ byte ∧ byte ≤ 0xF4 then ([], .lead byte)
  else ([], .start)

/-- A value to which one more byte was added. -/
def advance (value owed : Nat) : List Char × State :=
  match owed with
  | 0 => ([Char.ofNat value], .start)
  | owed + 1 => ([], .tail value owed)

/-- One byte: what it completes, and where the reader stands after it. -/
def step : State → UInt8 → List Char × State
  | .start, byte => begin byte
  | .lead first, byte =>
    if follows first byte then
      advance (leadBits first * 64 + byte.toNat % 64) (owedAfter first - 1)
    else begin byte
  | .tail value owed, byte =>
    if continues byte then advance (value * 64 + byte.toNat % 64) owed else begin byte

/-- The characters read from a state; a sequence still open at the end is dropped. -/
def decodeFrom : State → List UInt8 → List Char
  | _, [] => []
  | state, byte :: bytes => (step state byte).1 ++ decodeFrom (step state byte).2 bytes

/-- The characters of a byte string. -/
def decode (bytes : List UInt8) : List Char :=
  decodeFrom .start bytes

theorem step_ascii (state : State) {byte : UInt8} (h : byte < 0x80) :
    step state byte = ([Char.ofNat byte.toNat], .start) := by
  have hb : begin byte = ([Char.ofNat byte.toNat], .start) := by simp [begin, h]
  have h' : byte.toNat < 128 := by simpa [UInt8.lt_iff_toNat_lt] using h
  cases state with
  | start => simpa [step] using hb
  | lead first =>
    have : follows first byte = false := by
      simp only [follows, Bool.and_eq_false_iff, decide_eq_false_iff_not, UInt8.le_iff_toNat_le]
      left
      split
      · simp; omega
      · split <;> simp <;> omega
    simp [step, this, hb]
  | tail value owed =>
    have : continues byte = false := by
      simp only [continues, Bool.and_eq_false_iff, decide_eq_false_iff_not, UInt8.le_iff_toNat_le]
      left
      simp; omega
    simp [step, this, hb]

theorem decodeFrom_append_ascii (state : State) (xs ys : List UInt8) {byte : UInt8} (h : byte < 0x80) :
    decodeFrom state (xs ++ byte :: ys) =
      decodeFrom state xs ++ Char.ofNat byte.toNat :: decode ys := by
  induction xs generalizing state with
  | nil => simp [decodeFrom, step_ascii state h, decode]
  | cons x xs ih => simp [decodeFrom, ih]

example : decode [0x61, 0xC3, 0x73] = ['a', 's'] ∧ decode [0xE2, 0x80, 0x61] = ['a'] := by decide
example : decode [0xF0, 0x9F, 0x98, 0x80, 0xED, 0xA0, 0x80, 0xC3, 0xA9] = ['😀', 'é'] := by decide
example : decode [0xC0, 0x80, 0xE0, 0x80, 0x80, 0xF4, 0x90, 0x80, 0x80, 0xF0, 0x9F] = [] := by decide

end PreMerge.Text.Utf8

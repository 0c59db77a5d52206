import PreMerge.Host.Octets
import PreMerge.Number.Digits

/-! Whole numbers of the host: words of sixty-four bits, and how they are read from texts. -/

namespace PreMerge.Host.Integer

/-- The word that a number is cut down to. -/
def wrap (n : Int) : Int :=
  Int.bmod n 0x10000000000000000

/-- The least signed word. -/
def least : Int := -0x8000000000000000

/-- The greatest signed word. -/
def greatest : Int := 0x7FFFFFFFFFFFFFFF

/-- The greatest word without a sign. -/
def greatestUnsigned : Int := 0xFFFFFFFFFFFFFFFF

/-- The value of a digit below a base. -/
def digit? (base : Nat) (c : Char) : Option Nat :=
  let value := if c.isDigit then c.toNat - '0'.toNat
    else if c.isAlpha then c.toLower.toNat - 'a'.toNat + 10
    else base
  if value < base then some value else none

/-- Whether a character is a digit below a base. -/
def isDigit (base : Nat) (c : Char) : Bool :=
  (digit? base c).isSome

/-- The number that digits denote. -/
def ofDigits (base : Nat) (digits : Octets) : Nat :=
  Digits.value base (digits.map fun c => (digit? base c).getD 0)

/-- What was read at the start of a text: a number, the digits it has, and what follows. -/
structure Reading where
  value : Int
  found : Bool
  rest : Octets
  deriving DecidableEq, Repr

/-- A sign, and what follows it. -/
def sign : Octets → Bool × Octets
  | '-' :: rest => (true, rest)
  | '+' :: rest => (false, rest)
  | text => (false, text)

/-- The digits at the start of a text. -/
def readDigits (base : Nat) (negative : Bool) (text : Octets) : Reading :=
  let digits := text.takeWhile (isDigit base)
  let n : Int := ofDigits base digits
  ⟨if negative then -n else n, !digits.isEmpty, text.dropWhile (isDigit base)⟩

/-- The number at the start of a text, behind white space and a sign. Zero in front means base eight, zero with
an x base sixteen. -/
def read (text : Octets) : Reading :=
  let (negative, text') := sign (text.dropWhile Octets.isBlank)
  let reading := match text' with
    | '0' :: x :: digit :: more =>
      if (x == 'x' || x == 'X') && isDigit 16 digit then readDigits 16 negative (digit :: more)
      else readDigits 8 negative text'
    | '0' :: _ => readDigits 8 negative text'
    | _ => readDigits 10 negative text'
  if reading.found then reading else ⟨0, false, text⟩

/-- The decimal number at the start of a text, behind white space and a sign. -/
def readDecimal (text : Octets) : Reading :=
  let (negative, text') := sign (text.dropWhile Octets.isBlank)
  let reading := readDigits 10 negative text'
  if reading.found then reading else ⟨0, false, text⟩

/-- The number that is nearest to another one between two bounds. -/
def clamp (low high n : Int) : Int :=
  max low (min high n)

/-- The number of a whole text, with white space after it. -/
def whole? (read : Octets → Reading) (text : Octets) : Option Int :=
  let reading := read text
  if reading.found && reading.rest.all Octets.isBlank then some reading.value else none

/-- The digits of a number in a base, in small letters. -/
def digits (base n : Nat) : Octets :=
  Nat.toDigits base n

theorem wrap_of_bounds {n : Int} (low : least ≤ n) (high : n ≤ greatest) : wrap n = n := by
  simp only [wrap, least, greatest] at *
  exact Int.bmod_eq_of_le (by omega) (by omega)

example : read " -0x1fz".toList = ⟨-31, true, ['z']⟩ ∧ read "0b12".toList = ⟨0, true, "b12".toList⟩ ∧
    read "08".toList = ⟨0, true, ['8']⟩ ∧
    read "x".toList = ⟨0, false, ['x']⟩ := by decide +kernel

end PreMerge.Host.Integer

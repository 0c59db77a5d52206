import PreMerge.Fault
import PreMerge.Number.Binary64

/-! Numbers in messages: to six significant digits, to hundredths, or cut to whole ones. -/

namespace PreMerge.Binary64

/-- How many digits are significant. -/
def significant : Nat := 6

/-- How many decimal digits a positive number certainly has behind its first one: three for ten binary ones. -/
def sureDigits (n : Nat) : Nat :=
  n.log2 * 3 / 10

/-- How many decimal digits a number has; zero has none. -/
def digitCount (n : Nat) : Nat :=
  if n = 0 then 0 else sureDigits n + (Nat.toDigits 10 (n / Nat.pow 10 (sureDigits n))).length

theorem pow_sureDigits_le {n : Nat} (h : n ≠ 0) : Nat.pow 10 (sureDigits n) ≤ n := by
  rw [Nat.pow_eq]
  refine Nat.le_trans ((Nat.pow_le_pow_iff_left (n := 10) (by decide)).1 ?_) (Nat.log2_self_le h)
  calc (10 ^ sureDigits n) ^ 10 = 10 ^ (sureDigits n * 10) := (Nat.pow_mul ..).symm
    _ ≤ 10 ^ (3 * n.log2) := Nat.pow_le_pow_right (by decide) (by unfold sureDigits; omega)
    _ = (10 ^ 3) ^ n.log2 := Nat.pow_mul ..
    _ ≤ (2 ^ 10) ^ n.log2 := Nat.pow_le_pow_left (by decide) _
    _ = (2 ^ n.log2) ^ 10 := by rw [← Nat.pow_mul, ← Nat.pow_mul, Nat.mul_comm]

/-- The exponent of the leading digit of a positive quotient. -/
def leadingExponent (n d : Nat) : Int :=
  if d ≤ n then digitCount (n / d) - 1 else -(digitCount ((d + n - 1) / n - 1))

/-- A quotient divided by a power of ten. -/
def dividedByPower (n d : Nat) (exponent : Int) : Nat × Nat :=
  if 0 ≤ exponent then (n, d * Nat.pow 10 exponent.toNat) else (n * Nat.pow 10 exponent.natAbs, d)

/-- The significant digits of a positive quotient, rounded, and the exponent of the first one. -/
def significantDigits (n d : Nat) : List Char × Int :=
  let exponent := leadingExponent n d
  let (n, d) := dividedByPower n d (exponent - (significant - 1))
  let rounded := roundDiv n d
  if rounded = Nat.pow 10 significant then (Nat.toDigits 10 (Nat.pow 10 (significant - 1)), exponent + 1)
  else (Nat.toDigits 10 rounded, exponent)

/-- Digits without the zeros at their end. -/
def dropLastZeros (digits : List Char) : List Char :=
  (digits.reverse.dropWhile (· == '0')).reverse

/-- A fraction behind its point, and nothing if it is zero. -/
def pointed (fraction : List Char) : List Char :=
  match dropLastZeros fraction with
  | [] => []
  | digits => '.' :: digits

/-- An exponent with its sign and at least two digits. -/
def exponentText (exponent : Int) : List Char :=
  let digits := Nat.toDigits 10 exponent.natAbs
  'e' :: (if exponent < 0 then '-' else '+') :: (if digits.length < 2 then '0' :: digits else digits)

/-- Significant digits with their point where `exponent` says. An exponent below -4, or one that the
significant digits do not reach, is written out. -/
def placed (digits : List Char) (exponent : Int) : List Char :=
  if exponent < -4 ∨ significant ≤ exponent then
    digits.take 1 ++ pointed (digits.drop 1) ++ exponentText exponent
  else if exponent < 0 then
    '0' :: pointed (List.replicate (exponent.natAbs - 1) '0' ++ digits)
  else digits.take (exponent.toNat + 1) ++ pointed (digits.drop (exponent.toNat + 1))

/-- The sign of a number. -/
def signText (negative : Bool) : String :=
  if negative then "-" else ""

/-- A number to its significant digits. -/
def general : Binary64 → String
  | .nan => "nan"
  | .infinity negative => signText negative ++ "inf"
  | .finite negative mantissa scale =>
    if mantissa = 0 then signText negative ++ "0"
    else
      let (digits, exponent) := significantDigits (magnitude mantissa scale) unitsOfOne
      signText negative ++ String.ofList (placed digits exponent)

/-- How many digits there are behind the point of a number to hundredths. -/
def hundredthsPlaces : Nat := 2

/-- A number to hundredths, a tie to the even one. -/
def hundredths : Binary64 → String
  | .nan => "nan"
  | .infinity negative => signText negative ++ "inf"
  | .finite negative mantissa scale =>
    let digits := Nat.toDigits 10 (roundDiv (Nat.pow 10 hundredthsPlaces * magnitude mantissa scale) unitsOfOne)
    let digits := List.replicate (hundredthsPlaces + 1 - digits.length) '0' ++ digits
    let places := digits.length - hundredthsPlaces
    signText negative ++ String.ofList (digits.take places ++ '.' :: digits.drop places)

/-- The whole number that is left when the fraction is cut off. -/
def truncate : Binary64 → Except Fault Int
  | .nan => .error (.ofText .value "cannot convert float NaN to integer")
  | .infinity _ => .error (.ofText .overflow "cannot convert float infinity to integer")
  | .finite negative mantissa scale => .ok (signed negative (magnitude mantissa scale / unitsOfOne))

example : (ofRatio false 25 2).general = "12.5" ∧ (ofRatio false 1234567 1).general = "1.23457e+06" := by
  decide +kernel
example : (ofRatio false 1234 100000000).general = "1.234e-05" ∧
    (ofRatio false 999999 10).general = "99999.9" := by decide +kernel
example : (ofRatio false (10 ^ 100) 1).general = "1e+100" ∧
    (ofRatio false 9999995 10).general = "1e+06" := by decide +kernel
example : (ofRatio false 1 8).hundredths = "0.12" ∧ (ofRatio true 12345 100).hundredths = "-123.45" ∧
    zero.hundredths = "0.00" := by decide +kernel
example : (ofRatio true 1 10000).general = "-0.0001" ∧ (ofRatio false 100000 1).general = "100000" := by
  decide +kernel

end PreMerge.Binary64

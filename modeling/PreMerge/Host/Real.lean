import PreMerge.Host.Integer
import PreMerge.Number.General

/-! Real numbers of the host: binary numbers of a limited precision and range, how they are read from texts,
and how their digits are found. -/

namespace PreMerge.Host

/-- A kind of binary numbers: how many bits the mantissa has, the exponent of the least of them, and the power
of two that all of them stay below. -/
structure RealKind where
  precision : Nat
  least : Nat
  greatest : Nat
  deriving DecidableEq, Repr

/-- A real number. A finite one is a quotient. -/
inductive Real
  | nan (negative : Bool)
  | infinity (negative : Bool)
  | finite (negative : Bool) (n d : Nat)
  deriving DecidableEq, Repr

namespace RealKind

/-- Numbers of double precision. -/
def double : RealKind := ⟨53, 1074, 1024⟩

/-- Numbers of more than double precision. -/
def extended : RealKind := ⟨64, 16445, 16384⟩

/-- The power of two that the last bit of a quotient's mantissa stands for, as a factor of the quotient. -/
def scaled (kind : RealKind) (n d : Nat) : Nat × Nat × Int :=
  let start : Int := (n.log2 : Int) - d.log2 - kind.precision
  let reaches := if start < 0 then n * Nat.pow 2 start.natAbs ≥ d * Nat.pow 2 kind.precision
    else n ≥ d * Nat.pow 2 (start.toNat + kind.precision)
  let shift := max (-(kind.least : Int)) (if reaches then start + 1 else start)
  if shift < 0 then (n * Nat.pow 2 shift.natAbs, d, shift) else (n, d * Nat.pow 2 shift.toNat, shift)

/-- The number that is nearest to a quotient, and whether it is out of range. -/
def nearest (kind : RealKind) (negative : Bool) (n d : Nat) : Real × Bool :=
  if n = 0 then (.finite negative 0 1, false)
  else
    let (n', d', shift) := kind.scaled n d
    let mantissa := Binary64.roundDiv n' d'
    let (n'', d'') := if shift < 0 then (mantissa, Nat.pow 2 shift.natAbs) else (mantissa * Nat.pow 2 shift.toNat, 1)
    if n'' ≥ d'' * Nat.pow 2 kind.greatest then (.infinity negative, true)
    else
      let isTiny := mantissa < Nat.pow 2 (kind.precision - 1)
      (.finite negative n'' d'', isTiny && n' % d' != 0)

end RealKind

namespace Real

/-- Whether a number is negative. -/
def isNegative : Real → Bool
  | .nan negative => negative
  | .infinity negative => negative
  | .finite negative _ _ => negative

/-- What was read at the start of a text: a number, whether it is out of range, whether there was one, and
what follows. -/
structure Reading where
  value : Real
  outOfRange : Bool := false
  found : Bool := true
  rest : Octets

/-- The digits at the start of a text, those behind a point, and what follows. -/
def digits (base : Nat) (text : Octets) : Octets × Octets × Octets :=
  let whole := text.takeWhile (Integer.isDigit base)
  match text.dropWhile (Integer.isDigit base) with
  | '.' :: rest =>
    let fraction := rest.takeWhile (Integer.isDigit base)
    if whole = [] && fraction = [] then (whole, [], '.' :: rest)
    else (whole, fraction, rest.dropWhile (Integer.isDigit base))
  | rest => (whole, [], rest)

/-- The exponent at the start of a text, behind its mark, and what follows. -/
def exponent (marks : List Char) (text : Octets) : Int × Octets :=
  match text with
  | mark :: rest =>
    if mark ∈ marks then
      let (negative, rest) := Integer.sign rest
      let reading := Integer.readDigits 10 negative rest
      if reading.found then (reading.value, reading.rest) else (0, text)
    else (0, text)
  | [] => (0, [])

/-- A power past the range of all kinds. -/
def greatestPower : Int := 20000

/-- A coefficient times a power of a base, and whether it is out of range. -/
def scale (kind : RealKind) (negative : Bool) (coefficient base : Nat) (power : Int) (length : Nat) :
    Real × Bool :=
  if coefficient = 0 then (.finite negative 0 1, false)
  else if power + length < -greatestPower then (.finite negative 0 1, true)
  else if greatestPower < power then (.infinity negative, true)
  else if 0 ≤ power then kind.nearest negative (coefficient * Nat.pow base power.toNat) 1
  else kind.nearest negative coefficient (Nat.pow base power.natAbs)

/-- The words that stand for numbers that are not finite, and what follows such a word. -/
def named? (negative : Bool) (text : Octets) : Option Reading :=
  let starts := fun (word : String) =>
    (Octets.after? word.toList (text.map Char.toLower)).map fun rest => text.drop (text.length - rest.length)
  match starts "infinity", starts "inf", starts "nan" with
  | some rest, _, _ => some { value := .infinity negative, rest }
  | none, some rest, _ => some { value := .infinity negative, rest }
  | none, none, some rest =>
    let rest := match rest with
      | '(' :: inside =>
        match inside.dropWhile Octets.isNameChar with
        | ')' :: later => later
        | _ => rest
      | _ => rest
    some { value := .nan negative, rest }
  | none, none, none => none

/-- The number at the start of a text, behind white space and a sign. -/
def read (kind : RealKind) (text : Octets) : Reading :=
  let (negative, body) := Integer.sign (text.dropWhile Octets.isBlank)
  let hexadecimal : Option Reading := match body with
    | '0' :: x :: more =>
      let (whole, fraction, rest) := digits 16 more
      if (x == 'x' || x == 'X') && !(whole ++ fraction).isEmpty then
        let (power, rest) := exponent ['p', 'P'] rest
        let coefficient := Integer.ofDigits 16 (whole ++ fraction)
        let (value, outOfRange) := scale kind negative coefficient 2 (power - 4 * fraction.length)
          (4 * (whole ++ fraction).length)
        some { value, outOfRange, rest }
      else none
    | _ => none
  match hexadecimal with
  | some reading => reading
  | none =>
    let (whole, fraction, rest) := digits 10 body
    if (whole ++ fraction).isEmpty then
      (named? negative body).getD { value := .finite false 0 1, found := false, rest := text }
    else
      let (power, rest) := exponent ['e', 'E'] rest
      let coefficient := Integer.ofDigits 10 (whole ++ fraction)
      let (value, outOfRange) := scale kind negative coefficient 10 (power - fraction.length)
        (whole ++ fraction).length
      { value, outOfRange, rest }

/-- Digits with zeros in front, up to a length. -/
def padded (length : Nat) (digits : Octets) : Octets :=
  List.replicate (length - digits.length) '0' ++ digits

/-- A fraction behind its point, which is left out in front of nothing unless `keepsPoint`. -/
def pointed (keepsPoint : Bool) (fraction : Octets) : Octets :=
  if fraction.isEmpty && !keepsPoint then [] else '.' :: fraction

/-- How many digits of a quotient by `d` are worth finding if `count` of them are asked for. All behind the first `few`
are zeros if the quotient ends, as one by a power of two does after as many places as the power. -/
def worth (few count d : Nat) : Nat :=
  if few < count && Nat.pow 10 d.log2 % d = 0 then few else count

/-- A quotient with the given number of places. -/
def fixed (keepsPoint : Bool) (places n d : Nat) : Octets :=
  let found := worth d.log2 places d
  let digits := padded (found + 1) (Octets.ofNat (Binary64.roundDiv (n * Nat.pow 10 found) d))
  let fraction := digits.drop (digits.length - found) ++ List.replicate (places - found) '0'
  digits.take (digits.length - found) ++ pointed keepsPoint fraction

/-- The given number of significant digits of a quotient, and the power of ten of the first of them. -/
def significant (count n d : Nat) : Octets × Int :=
  if n = 0 then (List.replicate count '0', 0)
  else
    let found := worth (n.log2 + d.log2 + 2) count d
    let power := Binary64.leadingExponent n d
    let (n', d') := Binary64.dividedByPower n d (power - (found - 1 : Nat))
    let rounded := Binary64.roundDiv n' d'
    let (digits, power) :=
      if rounded = Nat.pow 10 found then (Octets.ofNat (Nat.pow 10 (found - 1)), power + 1) else (Octets.ofNat rounded, power)
    (digits ++ List.replicate (count - found) '0', power)

/-- A power of ten with its mark, its sign and at least two digits. -/
def powerText (power : Int) : Octets :=
  'e' :: (if power < 0 then '-' else '+') :: padded 2 (Octets.ofNat power.natAbs)

/-- A quotient with one digit in front of the point and the given number of places behind it. -/
def scientific (keepsPoint : Bool) (places n d : Nat) : Octets :=
  let (digits, power) := significant (places + 1) n d
  digits.take 1 ++ pointed keepsPoint (digits.drop 1) ++ powerText power

/-- A quotient with the given number of significant digits, without zeros at the end unless `keepsPoint`. -/
def general (keepsPoint : Bool) (count n d : Nat) : Octets :=
  let count := max count 1
  let (digits, power) := significant count n d
  let trimmed := fun (fraction : Octets) =>
    if keepsPoint then fraction else (fraction.reverse.dropWhile (· == '0')).reverse
  if power < -4 || (count : Int) ≤ power then
    digits.take 1 ++ pointed keepsPoint (trimmed (digits.drop 1)) ++ powerText power
  else if power < 0 then
    '0' :: pointed keepsPoint (trimmed (List.replicate (power.natAbs - 1) '0' ++ digits))
  else digits.take (power.toNat + 1) ++ pointed keepsPoint (trimmed (digits.drop (power.toNat + 1)))

/-- A quotient with digits of base sixteen, the first of which stands for `lead` bits, and a power of two. -/
def hexadecimal (kind : RealKind) (keepsPoint : Bool) (places : Option Nat) (n d : Nat) : Octets :=
  let lead := (kind.precision - 1) % 4 + 1
  let count := (kind.precision - lead) / 4
  let (mantissa, power) : Nat × Int :=
    if n = 0 then (0, 0)
    else
      let (n', d', shift) := kind.scaled n d
      (n' / d', shift + 4 * count)
  let kept := min (places.getD count) count
  let scaled := Binary64.roundDiv mantissa (Nat.pow 16 (count - kept))
  let (scaled, power) := if Nat.pow 16 (kept + 1) ≤ scaled then (scaled / 16, power + 4) else (scaled, power)
  let digits := padded (kept + 1) (Integer.digits 16 scaled)
  let fraction := digits.drop (digits.length - kept)
  let fraction := match places with
    | none => (fraction.reverse.dropWhile (· == '0')).reverse
    | some places => fraction ++ List.replicate (places - kept) '0'
  digits.take (digits.length - kept) ++ pointed keepsPoint fraction ++
    ('p' :: (if power < 0 then '-' else '+') :: Octets.ofNat power.natAbs)

example : (read .double "2.5e-1x".toList).rest = ['x'] := by decide +kernel
example : fixed false 2 314159 100000 = "3.14".toList ∧ scientific false 6 1 1 = "1.000000e+00".toList ∧
    general false 6 1 10000 = "0.0001".toList := by decide +kernel

end Real

end PreMerge.Host

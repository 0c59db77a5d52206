import PreMerge.Number.Digits
import PreMerge.Number.General
import PreMerge.Text.Blank
import PreMerge.Text.Digit

/-! Numbers as settings write them: a sign, digits of any script with single underscores between them, a
point, and an exponent; or the names of infinity and of what is not a number, in any case. Blanks around
the number do not count. -/

namespace PreMerge

/-- A decimal number, a coefficient times a power of ten. -/
structure Decimal where
  negative : Bool
  coefficient : Nat
  exponent : Int
  deriving DecidableEq, Repr

namespace Decimal

/-- Whether a text starts with a digit. -/
def startsWithDigit : List Char → Bool
  | [] => false
  | c :: _ => (Text.decimalDigit? c).isSome

/-- The digits at the start of a text, and the rest. An underscore is passed over after a digit and
before another one. -/
def digitsFrom (afterDigit : Bool) : List Char → List Nat × List Char
  | [] => ([], [])
  | c :: rest =>
    match Text.decimalDigit? c with
    | some digit =>
      let later := digitsFrom true rest
      (digit :: later.1, later.2)
    | none =>
      if afterDigit && c == '_' && startsWithDigit rest then digitsFrom false rest else ([], c :: rest)

/-- The digits at the start of a text, and the rest. -/
def digits (cs : List Char) : List Nat × List Char :=
  digitsFrom false cs

/-- A sign, which may be left out, and the rest. -/
def sign : List Char → Bool × List Char
  | '-' :: rest => (true, rest)
  | '+' :: rest => (false, rest)
  | cs => (false, cs)

/-- The exponent that a text consists of; an empty text stands for zero. -/
def exponent? : List Char → Option Int
  | [] => some 0
  | mark :: rest =>
    if mark = 'e' ∨ mark = 'E' then
      let (negative, rest) := sign rest
      match digits rest with
      | ([], _) => none
      | (ds, []) => some (if negative then -(Digits.value 10 ds) else Digits.value 10 ds)
      | _ => none
    else none

/-- The fraction at the start of a text, and the rest. -/
def fraction : List Char → List Nat × List Char
  | '.' :: rest => digits rest
  | cs => ([], cs)

/-- A decimal number without a sign. -/
def unsigned? (negative : Bool) (cs : List Char) : Option Decimal :=
  let (whole, rest) := digits cs
  let (decimals, rest) := fraction rest
  if whole = [] ∧ decimals = [] then none
  else (exponent? rest).map fun e => ⟨negative, Digits.value 10 (whole ++ decimals), e - decimals.length⟩

/-- A power of ten past all numbers of double precision, both ways. -/
def greatestPower : Int := 400

/-- The nearest number of double precision. -/
def nearest (decimal : Decimal) : Binary64 :=
  let leading := Binary64.digitCount decimal.coefficient + decimal.exponent
  if decimal.coefficient = 0 ∨ leading < -greatestPower then .finite decimal.negative 0 0
  else if greatestPower < leading then .infinity decimal.negative
  else if 0 ≤ decimal.exponent then
    .ofRatio decimal.negative (decimal.coefficient * Nat.pow 10 decimal.exponent.toNat) 1
  else .ofRatio decimal.negative decimal.coefficient (Nat.pow 10 decimal.exponent.natAbs)

/-- The number a text denotes. -/
def read? (text : String) : Option Binary64 :=
  let (negative, body) := sign (Text.trim Text.isWhiteSpace text.toList)
  let name := body.map Char.toLower
  if name = "inf".toList ∨ name = "infinity".toList then some (.infinity negative)
  else if name = "nan".toList then some .nan
  else (unsigned? negative body).map nearest

example : read? " 1_0.5e-1\n" = some (.ofRatio false 105 100) ∧ read? "٣" = some (.ofRatio false 3 1) := by
  decide +kernel
example : read? "1__0" = none ∧ read? "1_." = none ∧ read? "." = none ∧ read? "1e" = none ∧
    read? "_1" = none ∧ read? "" = none ∧ read? "1 2" = none := by decide +kernel
example : read? "-iNfInIty" = some (.infinity true) ∧ read? "+NAN" = some .nan ∧
    read? "1e999999999999" = some (.infinity false) ∧ read? "1e-400" = some .zero := by decide +kernel

end Decimal

end PreMerge

/-! Numbers of double precision, kept exactly. A finite number counts units of `2 ^ -1074`: a mantissa of
at most 53 bits, shifted to the left by a scale. Sums and quotients are computed in units and rounded
once, to the nearest number, ties to the even mantissa. -/

namespace PreMerge

/-- A number of double precision. -/
inductive Binary64
  | nan
  | infinity (negative : Bool)
  | finite (negative : Bool) (mantissa scale : Nat)
  deriving DecidableEq, Repr, Inhabited

namespace Binary64

/-- How many bits a mantissa has. -/
def precision : Nat := 53

/-- The largest scale of a finite number. -/
def greatestScale : Nat := 2045

/-- How many units make one. -/
def unitsOfOne : Nat := Nat.pow 2 1074

/-- A quotient rounded to the nearest whole number, a tie to the even one. -/
def roundDiv (n d : Nat) : Nat :=
  let q := n / d
  let twice := 2 * (n % d)
  if twice < d then q
  else if twice = d then q + q % 2
  else q + 1

/-- The nearest number to `n / d` units. -/
def ofUnits (negative : Bool) (n d : Nat) : Binary64 :=
  let scale := (n / d).log2 + 1 - precision
  let mantissa := roundDiv n (d * Nat.pow 2 scale)
  let full := mantissa = Nat.pow 2 precision
  let scale := if full then scale + 1 else scale
  if scale ≤ greatestScale then
    .finite negative (if full then Nat.pow 2 (precision - 1) else mantissa) scale
  else .infinity negative

/-- The nearest number to a quotient. -/
def ofRatio (negative : Bool) (n d : Nat) : Binary64 :=
  ofUnits negative (n * unitsOfOne) d

/-- Zero. -/
def zero : Binary64 :=
  .finite false 0 0

/-- How many units a mantissa and a scale stand for. -/
def magnitude (mantissa scale : Nat) : Nat :=
  mantissa * Nat.pow 2 scale

/-- Units with a sign. -/
def signed (negative : Bool) (units : Nat) : Int :=
  if negative then -units else units

/-- A whole number of units as a number, with the sign of its zero. -/
def ofSigned (negativeZero : Bool) (units : Int) : Binary64 :=
  if units = 0 then .finite negativeZero 0 0 else ofUnits (units < 0) units.natAbs 1

/-- The number with the other sign. -/
def neg : Binary64 → Binary64
  | .nan => .nan
  | .infinity negative => .infinity (!negative)
  | .finite negative mantissa scale => .finite (!negative) mantissa scale

/-- The sum; it is negative zero only if both terms are. -/
def add : Binary64 → Binary64 → Binary64
  | .nan, _ => .nan
  | _, .nan => .nan
  | .infinity s, .infinity t => if s = t then .infinity s else .nan
  | .infinity s, .finite _ _ _ => .infinity s
  | .finite _ _ _, .infinity t => .infinity t
  | .finite s m e, .finite t n f =>
    ofSigned (s && t) (signed s (magnitude m e) + signed t (magnitude n f))

instance : Neg Binary64 := ⟨neg⟩
instance : Add Binary64 := ⟨add⟩
instance : Sub Binary64 := ⟨fun a b => a + -b⟩

/-- Whether a number is finite. -/
def isFinite : Binary64 → Bool
  | .finite _ _ _ => true
  | _ => false

/-- Whether a number is zero or less; what is not a number is not. -/
def notPositive : Binary64 → Bool
  | .nan => false
  | .infinity negative => negative
  | .finite negative mantissa _ => negative || mantissa == 0

/-- The sixty-four bits of a number as one number. All that are no numbers are alike. -/
def toBits : Binary64 → Nat
  | .nan => 0x7FF8000000000000
  | .infinity negative => (if negative then 0x8000000000000000 else 0) + 0x7FF0000000000000
  | .finite negative mantissa scale => (if negative then 0x8000000000000000 else 0) + (scale * 0x10000000000000 + mantissa)

theorem neg_neg (x : Binary64) : - -x = x := by
  cases x <;> simp [Neg.neg, neg]

theorem nan_add (x : Binary64) : nan + x = nan := by
  cases x <;> rfl

example : (ofRatio false 3 2).toBits = 0x3FF8000000000000 := by decide +kernel
example : (ofRatio true 1 10).toBits = 0xBFB999999999999A ∧ (ofRatio false 1 (10 ^ 400)) = zero := by
  decide +kernel
example : ofRatio false (10 ^ 309) 1 = .infinity false ∧
    (ofRatio false 1 10 + ofRatio false 2 10).toBits = 0x3FD3333333333334 := by decide +kernel
example : (ofRatio false 5 (10 ^ 324)).toBits = 1 ∧ (zero - zero) = zero ∧ (-zero + -zero) = -zero := by
  decide +kernel

end Binary64

end PreMerge

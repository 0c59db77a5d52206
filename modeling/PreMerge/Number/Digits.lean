/-! Numbers from their digits. Long ones are put together from halves of equal length rather than digit by digit, which
spares most of the work. Main statement: a further digit counts once, and all before it as often as the base says. -/

namespace PreMerge.Digits

/-- Digits, the last of a number first, as digits in the square of their base. -/
def paired (base : Nat) : List Nat → List Nat
  | low :: high :: rest => (high * base + low) :: paired base rest
  | digits => digits

/-- The number with the given digits, the last one first. The first argument is no less than their count. -/
def join : Nat → Nat → List Nat → Nat
  | fuel + 1, base, low :: high :: rest => join fuel (base * base) (paired base (low :: high :: rest))
  | _, _, digits => digits.head?.getD 0

/-- The number with the given digits. -/
def value (base : Nat) (digits : List Nat) : Nat :=
  join digits.length base digits.reverse

/-- The number with the given digits, the last one first, digit by digit. -/
def sum (base : Nat) (digits : List Nat) : Nat :=
  digits.foldr (fun digit n => n * base + digit) 0

theorem length_paired_le (base : Nat) (digits : List Nat) : (paired base digits).length ≤ digits.length := by
  fun_induction paired base digits with
  | case1 low high rest ih => simp only [List.length_cons]; omega
  | case2 => exact Nat.le_refl _

theorem sum_paired (base : Nat) (digits : List Nat) : sum (base * base) (paired base digits) = sum base digits := by
  fun_induction paired base digits with
  | case1 low high rest ih =>
    simp only [sum, List.foldr_cons] at ih ⊢
    rw [ih, Nat.add_mul, Nat.mul_assoc, Nat.add_assoc]
  | case2 digits h =>
    match digits, h with
    | [], _ => rfl
    | [_], _ => simp [sum]
    | low :: high :: rest, h => exact absurd rfl (h low high rest)

theorem join_eq_sum {fuel : Nat} {digits : List Nat} (base : Nat) (h : digits.length ≤ fuel) :
    join fuel base digits = sum base digits := by
  fun_induction join fuel base digits with
  | case1 fuel base low high rest ih =>
    rw [ih, sum_paired]
    have := length_paired_le base rest
    simp only [paired, List.length_cons] at h ⊢
    omega
  | case2 fuel base digits hd =>
    match fuel, digits, hd, h with
    | _, [], _, _ => rfl
    | _, [_], _, _ => simp [sum]
    | fuel + 1, low :: high :: rest, hd, _ => exact (hd fuel low high rest rfl rfl).elim

theorem value_eq_sum (base : Nat) (digits : List Nat) : value base digits = sum base digits.reverse :=
  join_eq_sum base (Nat.le_of_eq List.length_reverse)

theorem value_append_singleton (base : Nat) (digits : List Nat) (digit : Nat) :
    value base (digits ++ [digit]) = value base digits * base + digit := by
  simp [value_eq_sum, sum]

example : value 10 [1, 2, 3, 4, 5] = 12345 ∧ value 8 [1, 7] = 15 ∧ value 10 [] = 0 := by decide +kernel

end PreMerge.Digits

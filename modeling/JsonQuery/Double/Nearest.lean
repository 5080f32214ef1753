import JsonQuery.Double

/-! # The double nearest to an exact number

Rounding is to the nearest double, and a number halfway between two goes to the one of even rank.
All arithmetic is on natural numbers, so the result is exact for numerals of any length.
-/

namespace JsonQuery.Double

/-- The quotient rounded to the nearest integer, halves to the even one. -/
def roundHalfEven (numerator denominator : Nat) : Nat :=
  let quotient := numerator / denominator
  let twice := 2 * (numerator % denominator)
  if denominator < twice ∨ (denominator = twice ∧ quotient % 2 = 1) then quotient + 1 else quotient

/-- The rank nearest to `numerator / denominator` units. It is at least `count` when the number is
    too large for a double. -/
def nearestRank (numerator denominator : Nat) : Nat :=
  let whole := numerator / denominator
  let scale := if whole < 2 * binade then 0 else Nat.log2 whole - 52
  scale * binade + roundHalfEven numerator (denominator <<< scale)

def ofRank? (negative : Bool) (rank : Nat) : Option Double :=
  if finite : rank < count then some ⟨negative, rank, finite⟩ else none

/-- The double nearest to an integer, and the largest one when the integer is out of reach. -/
def ofInt (value : Int) : Double :=
  let negative := decide (value < 0)
  (ofRank? negative (nearestRank (value.natAbs <<< 1074) 1)).getD (largest negative)

/-- The double nearest to `± digits * 10 ^ exponent`, or nothing when that is too large. The two
    guards keep the powers of ten in proportion to the digits: beyond them the result is known. -/
def ofDecimal? (negative : Bool) (digits : Nat) (exponent : Int) : Option Double :=
  if digits = 0 then
    some (zero negative)
  else if 400 < exponent then
    none
  else if (Nat.log2 digits : Int) + 1101 < -3 * exponent then
    some (zero negative)
  else
    ofRank? negative
      (nearestRank ((digits * Nat.pow 10 exponent.toNat) <<< 1074) (Nat.pow 10 (-exponent).toNat))

@[simp] theorem ofRank?_rank (x : Double) : ofRank? x.negative x.rank = some x :=
  dif_pos x.finite

@[simp] theorem roundHalfEven_one (n : Nat) : roundHalfEven n 1 = n := by
  simp [roundHalfEven, Nat.mod_one]

/-- A rounded quotient is off by at most one half. -/
theorem roundHalfEven_bounds (n : Nat) {d : Nat} (positive : 0 < d) :
    2 * n ≤ 2 * (roundHalfEven n d * d) + d ∧ 2 * (roundHalfEven n d * d) ≤ 2 * n + d := by
  have split := Nat.div_add_mod n d
  have small := Nat.mod_lt n positive
  have swap : n / d * d = d * (n / d) := Nat.mul_comm _ _
  have swap' : (n / d + 1) * d = d * (n / d) + d := by rw [Nat.add_mul, swap, Nat.one_mul]
  simp only [roundHalfEven]
  split
  · rw [swap']; omega
  · rw [swap]; omega

end JsonQuery.Double

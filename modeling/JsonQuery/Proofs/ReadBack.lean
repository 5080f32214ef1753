import JsonQuery.Proofs.Rounding

/-! # Decimals that read back

A decimal that lies between the midpoints of a rank is read as the double of that rank, however many
zeros its digits end in, and the shortest decimal of a rank is such a decimal.
-/

namespace JsonQuery.Double

/-! ## Decimals of one value -/

theorem cross_le {bound numerator denominator numerator' denominator' : Nat}
    (positive : 0 < denominator) (same : numerator * denominator' = numerator' * denominator)
    (h : bound * denominator ≤ 2 * numerator) : bound * denominator' ≤ 2 * numerator' := by
  refine Nat.le_of_mul_le_mul_right (c := denominator) ?_ positive
  calc
    bound * denominator' * denominator = bound * denominator * denominator' := by ring
    _ ≤ 2 * numerator * denominator' := Nat.mul_le_mul_right denominator' h
    _ = 2 * numerator' * denominator := by rw [Nat.mul_assoc, same, Nat.mul_assoc]

theorem le_cross {bound numerator denominator numerator' denominator' : Nat}
    (positive : 0 < denominator) (same : numerator * denominator' = numerator' * denominator)
    (h : 2 * numerator ≤ bound * denominator) : 2 * numerator' ≤ bound * denominator' := by
  refine Nat.le_of_mul_le_mul_right (c := denominator) ?_ positive
  calc
    2 * numerator' * denominator = 2 * numerator * denominator' := by
      rw [Nat.mul_assoc, ← same, Nat.mul_assoc]
    _ ≤ bound * denominator * denominator' := Nat.mul_le_mul_right denominator' h
    _ = bound * denominator' * denominator := by ring

/-- Whether a number lies between the midpoints of a rank depends on its value only. -/
theorem Surrounds.of_same {rank numerator denominator numerator' denominator' : Nat}
    (positive : 0 < denominator) (positive' : 0 < denominator')
    (same : numerator * denominator' = numerator' * denominator)
    (h : Surrounds rank numerator denominator) : Surrounds rank numerator' denominator' where
  low := cross_le positive same h.low
  high := le_cross positive same h.high
  lowOdd odd := by
    by_contra not
    exact absurd (h.lowOdd odd)
      (Nat.not_lt.mpr (le_cross positive' same.symm (Nat.not_lt.mp not)))
  highOdd odd := by
    by_contra not
    exact absurd (h.highOdd odd)
      (Nat.not_lt.mpr (cross_le positive' same.symm (Nat.not_lt.mp not)))

theorem unitDenominator_pos (exponent : Int) : 0 < unitDenominator exponent :=
  Nat.pow_pos (by decide)

theorem shiftLeft_eq_mul (value bits : Nat) : value <<< bits = value * 1 <<< bits := by
  rw [Nat.shiftLeft_eq, Nat.one_shiftLeft]

/-- The power of two is the same for all exponents. -/
theorem unitNumerator_eq (exponent : Int) :
    unitNumerator exponent = 10 ^ exponent.toNat * unitNumerator 0 := shiftLeft_eq_mul _ _

theorem shiftLeft_one (bits : Nat) : 1 <<< bits = 2 ^ bits := Nat.one_shiftLeft bits

/-- The number of bits is kept as a variable, so that no step computes the power. -/
theorem exists_unitBits : ∃ bits, bits = 1074 ∧ unitNumerator 0 = 2 ^ bits :=
  ⟨_, rfl, shiftLeft_one _⟩

theorem roundsTo_zeros (rank digits : Nat) (exponent : Int) (zeros : Nat) :
    roundsTo rank ⟨digits * 10 ^ zeros, exponent - zeros⟩ = true ↔
      roundsTo rank ⟨digits, exponent⟩ = true := by
  have powers : 10 ^ zeros * 10 ^ (exponent - zeros).toNat * 10 ^ (-exponent).toNat =
      10 ^ exponent.toNat * 10 ^ (-(exponent - zeros)).toNat := by
    rw [← Nat.pow_add, ← Nat.pow_add, ← Nat.pow_add]
    congr 1
    omega
  have same : digits * 10 ^ zeros * unitNumerator (exponent - zeros) * unitDenominator exponent =
      digits * unitNumerator exponent * unitDenominator (exponent - zeros) := by
    rw [unitNumerator_eq (exponent - zeros), unitNumerator_eq exponent]
    simp only [unitDenominator, Nat.pow_eq]
    calc
      digits * 10 ^ zeros * (10 ^ (exponent - zeros).toNat * unitNumerator 0) *
          10 ^ (-exponent).toNat =
          digits * unitNumerator 0 *
            (10 ^ zeros * 10 ^ (exponent - zeros).toNat * 10 ^ (-exponent).toNat) := by ring
      _ = digits * (10 ^ exponent.toNat * unitNumerator 0) *
            10 ^ (-(exponent - zeros)).toNat := by rw [powers]; ring
  rw [← surrounds_iff, ← surrounds_iff]
  exact ⟨fun h => h.of_same (unitDenominator_pos _) (unitDenominator_pos _) same,
    fun h => h.of_same (unitDenominator_pos _) (unitDenominator_pos _) same.symm⟩

theorem roundsTo_trim (fuel : Nat) {rank : Nat} {d : Decimal} (h : roundsTo rank d = true) :
    roundsTo rank (d.trim fuel) = true := by
  induction fuel generalizing d with
  | zero => exact h
  | succ fuel ih =>
      simp only [Decimal.trim]
      split
      · next zero =>
          refine ih ((roundsTo_zeros rank (d.digits / 10) (d.exponent + 1) 1).mp ?_)
          have digits : d.digits / 10 * 10 ^ 1 = d.digits := by omega
          have exponent : d.exponent + 1 - (1 : Nat) = d.exponent := by omega
          rw [digits, exponent]
          exact h
      · exact h

/-! ## Reading -/

/-- No digits are read as zero, which is below every other rank. -/
theorem digits_ne_zero {rank : Nat} (nonzero : 0 < rank) {d : Decimal}
    (h : roundsTo rank d = true) : d.digits ≠ 0 := by
  intro zero
  have low := ((surrounds_iff rank d).mpr h).low
  have some : 0 < units rank := units_zero ▸ units_strictMono nonzero
  have : 0 < (units (rank - 1) + units rank) * unitDenominator d.exponent :=
    Nat.mul_pos (by omega) (unitDenominator_pos _)
  rw [zero, Nat.zero_mul] at low
  omega

/-- A power of ten above `10 ^ 400` is too large for a double. -/
theorem exponent_le_of_roundsTo {rank : Nat} (finite : rank < count) (nonzero : 0 < rank)
    {d : Decimal} (h : roundsTo rank d = true) : d.exponent ≤ 400 := by
  by_contra large
  have high := ((surrounds_iff rank d).mpr h).high
  have one : unitDenominator d.exponent = 1 := by
    have : (-d.exponent).toNat = 0 := by omega
    rw [unitDenominator, this, Nat.pow_eq, pow_zero]
  have most : units rank + units (rank + 1) ≤ 2 * units count := by
    have := units_strictMono.monotone finite.le
    have := units_strictMono.monotone (Nat.succ_le_of_lt finite)
    simp only [Nat.succ_eq_add_one] at this
    omega
  obtain ⟨power, isPower, limit⟩ : ∃ power, power = 401 ∧ units count < 10 ^ power * unitNumerator 0 :=
    ⟨_, rfl, by decide +kernel⟩
  have enough : 10 ^ power * unitNumerator 0 ≤ d.digits * unitNumerator d.exponent := by
    rw [unitNumerator_eq d.exponent, ← Nat.one_mul (10 ^ power * unitNumerator 0)]
    refine Nat.mul_le_mul (Nat.pos_of_ne_zero (digits_ne_zero nonzero h)) ?_
    exact Nat.mul_le_mul_right _ (Nat.pow_le_pow_right (by decide) (by omega))
  rw [one, Nat.mul_one] at high
  omega

/-- A decimal with a power of ten so small that its digits cannot make up for it lies below half the
    least rank. -/
theorem le_exponent_of_roundsTo {rank : Nat} (nonzero : 0 < rank) {d : Decimal}
    (h : roundsTo rank d = true) : -3 * d.exponent ≤ Nat.log2 d.digits + 1101 := by
  by_contra small
  have low := ((surrounds_iff rank d).mpr h).low
  have some : 1 ≤ units (rank - 1) + units rank := by
    have : 0 < units rank := units_zero ▸ units_strictMono nonzero
    omega
  obtain ⟨power, isPower⟩ : ∃ power, power = (-d.exponent).toNat := ⟨_, rfl⟩
  obtain ⟨bits, isBits, unit⟩ := exists_unitBits
  have numerator : unitNumerator d.exponent = 2 ^ bits := by
    have : d.exponent.toNat = 0 := by omega
    rw [unitNumerator_eq, this, pow_zero, Nat.one_mul, unit]
  have denominator : 2 ^ (3 * power) ≤ unitDenominator d.exponent := by
    rw [unitDenominator, ← isPower, Nat.pow_mul]
    exact Nat.pow_le_pow_left (by decide) power
  have digits : d.digits < 2 ^ (Nat.log2 d.digits + 1) := Nat.lt_log2_self
  have bound : 2 ^ (3 * power) < 2 ^ (Nat.log2 d.digits + 1 + bits + 1) := by
    calc
      2 ^ (3 * power) ≤ 1 * unitDenominator d.exponent := by rw [Nat.one_mul]; exact denominator
      _ ≤ (units (rank - 1) + units rank) * unitDenominator d.exponent :=
        Nat.mul_le_mul_right _ some
      _ ≤ 2 * (d.digits * unitNumerator d.exponent) := low
      _ < 2 * (2 ^ (Nat.log2 d.digits + 1) * 2 ^ bits) := by
        rw [numerator]
        exact Nat.mul_lt_mul_of_pos_left
          (Nat.mul_lt_mul_of_pos_right digits (Nat.two_pow_pos _)) (by decide)
      _ = 2 ^ (Nat.log2 d.digits + 1 + bits + 1) := by
        rw [Nat.pow_succ _ (Nat.log2 d.digits + 1 + bits), Nat.pow_add _ _ bits, Nat.mul_comm 2]
  have := (Nat.pow_lt_pow_iff_right (by decide)).mp bound
  omega

theorem ofDecimal?_of_roundsTo (negative : Bool) {rank : Nat} (nonzero : 0 < rank)
    (finite : rank < count) {d : Decimal} (h : roundsTo rank d = true) :
    ofDecimal? negative d.digits d.exponent = some ⟨negative, rank, finite⟩ := by
  have large := exponent_le_of_roundsTo finite nonzero h
  have small := le_exponent_of_roundsTo nonzero h
  have nearest : nearestRank ((d.digits * Nat.pow 10 d.exponent.toNat) <<< 1074)
      (Nat.pow 10 (-d.exponent).toNat) = rank := by
    have same : (d.digits * Nat.pow 10 d.exponent.toNat) <<< 1074 =
        d.digits * unitNumerator d.exponent := by
      rw [unitNumerator_eq, ← Nat.mul_assoc]
      exact shiftLeft_eq_mul _ _
    rw [same]
    exact (nearestRank_eq_iff (unitDenominator_pos _)).mpr ((surrounds_iff rank d).mpr h)
  simp only [ofDecimal?, if_neg (digits_ne_zero nonzero h), if_neg (Int.not_lt.mpr large),
    if_neg (Int.not_lt.mpr small), nearest]
  exact dif_pos finite

/-! ## The shortest decimal -/

theorem roundsTo_of_onGrid? {rank : Nat} {exponent : Int} {d : Decimal}
    (h : onGrid? rank exponent = some d) : roundsTo rank d = true := by
  simp only [onGrid?] at h
  split at h
  · simp at h
  · next below _ => cases h; exact below
  · next _ above => cases h; exact above
  · next below above =>
      split at h
      · cases h; exact below
      · cases h; exact above

theorem roundsTo_exactDecimal (rank : Nat) : roundsTo rank (exactDecimal rank) = true := by
  have powers : Nat.pow 5 1074 * unitNumerator (-1074) = unitDenominator (-1074) := by
    decide +kernel
  have exact' : (exactDecimal rank).digits * unitNumerator (exactDecimal rank).exponent =
      units rank * unitDenominator (exactDecimal rank).exponent := by
    simp only [exactDecimal]
    rw [Nat.mul_assoc, powers]
  rw [← surrounds_iff]
  exact (surrounds_units rank).of_same Nat.one_pos (unitDenominator_pos _)
    (by rw [exact', Nat.mul_one])

theorem roundsTo_shortest (rank : Nat) : roundsTo rank (shortest rank) = true := by
  simp only [shortest]
  cases found : (List.range 17).findSome? fun (more : Nat) =>
      onGrid? rank (leadingExponent rank - more) with
  | none => exact roundsTo_exactDecimal rank
  | some d =>
      obtain ⟨more, _, onGrid⟩ := List.exists_of_findSome?_eq_some found
      exact roundsTo_of_onGrid? onGrid

end JsonQuery.Double

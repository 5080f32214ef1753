import Mathlib.Tactic
import JsonQuery.Double.Shortest

/-! # Rounding to the nearest double

`nearestRank` computes a rank from quotients and shifts, while `roundsTo` compares a number with the
midpoints to the neighbouring ranks. The two agree: the midpoints leave room for one rank only, and
the computed one lies between its own.
-/

namespace JsonQuery.Double

/-! ## The magnitudes of ranks -/

/-- Within a binade, and up to the first rank of the next one, ranks are evenly spaced. -/
theorem units_of_binade {scale significand : Nat} (most : significand ≤ 2 * binade)
    (least : binade ≤ significand ∨ scale = 0) :
    units (scale * binade + significand) = significand * 2 ^ scale := by
  have below : significand < 2 * binade →
      units (scale * binade + significand) = significand * 2 ^ scale := by
    intro inside
    have same : Double.scale (scale * binade + significand) = scale := by
      simp only [Double.scale, binade] at *
      omega
    simp only [units, same, Nat.shiftLeft_eq, Nat.add_sub_cancel_left]
  rcases Nat.lt_or_ge significand (2 * binade) with inside | above
  · exact below inside
  · -- twice the least significand is the least one of the next binade
    have top : significand = 2 * binade := Nat.le_antisymm most above
    subst top
    have next : Double.scale (scale * binade + 2 * binade) = scale + 1 := by
      simp only [Double.scale, binade]
      omega
    have rest : scale * binade + 2 * binade - (scale + 1) * binade = binade := by
      simp only [binade]
      omega
    simp only [units, next, rest, Nat.shiftLeft_eq, Nat.pow_succ]
    ring

theorem exists_significand (rank : Nat) :
    ∃ significand, rank = scale rank * binade + significand ∧ significand < 2 * binade ∧
      (binade ≤ significand ∨ scale rank = 0) := by
  refine ⟨rank - scale rank * binade, ?_⟩
  simp only [scale, binade]
  omega

theorem units_succ (rank : Nat) : units (rank + 1) = units rank + 2 ^ scale rank := by
  obtain ⟨significand, split, small, least⟩ := exists_significand rank
  have here : units rank = significand * 2 ^ scale rank := by
    conv_lhs => rw [split]
    exact units_of_binade small.le least
  have next : units (rank + 1) = (significand + 1) * 2 ^ scale rank := by
    conv_lhs => rw [split, Nat.add_assoc]
    exact units_of_binade small (least.imp_left Nat.le_succ_of_le)
  rw [next, here]
  ring

theorem units_strictMono : StrictMono units := by
  refine strictMono_nat_of_lt_succ fun rank => ?_
  rw [units_succ]
  exact Nat.lt_add_of_pos_right (Nat.two_pow_pos _)

@[simp] theorem units_zero : units 0 = 0 := by
  simp [units, scale, binade]

/-! ## Between the midpoints -/

/-- A number of units, given as a fraction, lies between the midpoints to the neighbours of a rank;
    the midpoints themselves belong to the even rank. -/
structure Surrounds (rank numerator denominator : Nat) : Prop where
  low : (units (rank - 1) + units rank) * denominator ≤ 2 * numerator
  high : 2 * numerator ≤ (units rank + units (rank + 1)) * denominator
  lowOdd : rank % 2 = 1 → (units (rank - 1) + units rank) * denominator < 2 * numerator
  highOdd : rank % 2 = 1 → 2 * numerator < (units rank + units (rank + 1)) * denominator

theorem surrounds_iff (rank : Nat) (d : Decimal) :
    Surrounds rank (d.digits * unitNumerator d.exponent) (unitDenominator d.exponent) ↔
      roundsTo rank d = true := by
  rcases Nat.mod_two_eq_zero_or_one rank with even | odd
  · simp only [roundsTo, even, if_true, Bool.and_eq_true, decide_eq_true_eq]
    exact ⟨fun h => ⟨h.low, h.high⟩, fun h => ⟨h.1, h.2, by omega, by omega⟩⟩
  · simp only [roundsTo, odd, if_neg Nat.one_ne_zero, Bool.and_eq_true, decide_eq_true_eq]
    exact ⟨fun h => ⟨h.lowOdd odd, h.highOdd odd⟩,
      fun h => ⟨h.1.le, h.2.le, fun _ => h.1, fun _ => h.2⟩⟩

/-- Of two ranks, the midpoints above the smaller one lie below those of the larger one, and only
    neighbours share a midpoint; of these one is odd. -/
theorem Surrounds.not_lt {first second least most denominator : Nat} (positive : 0 < denominator)
    (order : least ≤ most) (a : Surrounds first most denominator)
    (b : Surrounds second least denominator) : ¬ first < second := by
  intro less
  have upper : units (first + 1) ≤ units second := units_strictMono.monotone less
  have twice : 2 * least ≤ 2 * most := Nat.mul_le_mul_left 2 order
  rcases Nat.lt_or_ge (first + 1) second with far | near
  · have lower : units first < units (second - 1) := units_strictMono (by omega)
    have gap : (units first + units (first + 1)) * denominator <
        (units (second - 1) + units second) * denominator :=
      Nat.mul_lt_mul_of_pos_right (by omega) positive
    exact absurd (a.high.trans_lt (gap.trans_le (b.low.trans twice))) (lt_irrefl _)
  · obtain rfl : second = first + 1 := by omega
    have shared : units (first + 1 - 1) + units (first + 1) = units first + units (first + 1) := by
      rw [Nat.add_sub_cancel]
    rcases Nat.mod_two_eq_zero_or_one first with even | odd
    · have strict := b.lowOdd (by omega)
      rw [shared] at strict
      exact absurd (a.high.trans_lt (strict.trans_le twice)) (lt_irrefl _)
    · have bound := b.low
      rw [shared] at bound
      exact absurd ((a.highOdd odd).trans_le (bound.trans twice)) (lt_irrefl _)

theorem surrounds_units (rank : Nat) : Surrounds rank (units rank) 1 := by
  have next : units rank < units (rank + 1) := units_strictMono (Nat.lt_succ_self rank)
  have last : units (rank - 1) ≤ units rank := units_strictMono.monotone (Nat.sub_le rank 1)
  have lastOdd : rank % 2 = 1 → units (rank - 1) < units rank := fun odd =>
    units_strictMono (by omega)
  exact ⟨by omega, by omega, fun odd => by have := lastOdd odd; omega, fun _ => by omega⟩

theorem Surrounds.unique {first second numerator denominator : Nat} (positive : 0 < denominator)
    (a : Surrounds first numerator denominator) (b : Surrounds second numerator denominator) :
    first = second :=
  Nat.le_antisymm (Nat.not_lt.mp (b.not_lt positive le_rfl a))
    (Nat.not_lt.mp (a.not_lt positive le_rfl b))

/-! ## The computed rank -/

/-- A tie between two integers goes to the even one, so an odd quotient is strictly nearest. -/
theorem roundHalfEven_odd (n : Nat) {d : Nat} (positive : 0 < d)
    (odd : roundHalfEven n d % 2 = 1) :
    2 * n < 2 * (roundHalfEven n d * d) + d ∧ 2 * (roundHalfEven n d * d) < 2 * n + d := by
  have split := Nat.div_add_mod n d
  have small := Nat.mod_lt n positive
  have swap : n / d * d = d * (n / d) := Nat.mul_comm _ _
  have swap' : (n / d + 1) * d = d * (n / d) + d := by rw [Nat.add_mul, swap, Nat.one_mul]
  simp only [roundHalfEven] at odd ⊢
  split at odd
  · next up => rw [if_pos up, swap']; omega
  · next down => rw [if_neg down, swap]; omega

def binadeOf (whole : Nat) : Nat := if whole < 2 * binade then 0 else Nat.log2 whole - 52

theorem nearestRank_eq (numerator denominator : Nat) :
    nearestRank numerator denominator =
      binadeOf (numerator / denominator) * binade +
        roundHalfEven numerator (denominator * 2 ^ binadeOf (numerator / denominator)) := by
  simp only [nearestRank, binadeOf, Nat.shiftLeft_eq]

/-- A number of units lies below the end of its binade, and, unless that is the first one, not below
    its beginning. -/
theorem binadeOf_bounds (whole : Nat) :
    whole < 2 * binade * 2 ^ binadeOf whole ∧
      (binade * 2 ^ binadeOf whole ≤ whole ∨ binadeOf whole = 0) := by
  rcases Nat.lt_or_ge whole (2 * binade) with small | large
  · have first : binadeOf whole = 0 := if_pos small
    rw [first, pow_zero, Nat.mul_one]
    exact ⟨small, Or.inr rfl⟩
  · have power : binade = 2 ^ 52 := by decide
    have nonzero : whole ≠ 0 := by
      have : 0 < binade := by decide
      omega
    have least : 53 ≤ Nat.log2 whole := by
      rw [Nat.le_log2 nonzero]
      have : 2 * binade = 2 ^ 53 := by decide
      omega
    obtain ⟨scale, same⟩ : ∃ scale, Nat.log2 whole = scale + 52 := ⟨Nat.log2 whole - 52, by omega⟩
    have below : 2 ^ (scale + 52) ≤ whole := same ▸ Nat.log2_self_le nonzero
    have above : whole < 2 ^ (scale + 52 + 1) := same ▸ Nat.lt_log2_self
    simp only [binadeOf, if_neg (Nat.not_lt.mpr large), same, Nat.add_sub_cancel]
    refine ⟨above.trans_eq ?_, Or.inl (le_trans (le_of_eq ?_) below)⟩
    · rw [power]; ring
    · rw [power]; ring

/-- Above a rank the spacing is at least that of its binade. -/
theorem units_add_le {scale significand : Nat} (least : binade ≤ significand ∨ scale = 0) :
    units (scale * binade + significand) + 2 ^ scale ≤ units (scale * binade + significand + 1) := by
  have step : scale ≤ Double.scale (scale * binade + significand) := by
    simp only [Double.scale, binade] at least ⊢
    omega
  rw [units_succ]
  exact Nat.add_le_add_left (Nat.pow_le_pow_right (by decide) step) _

/-- Below a rank the spacing is that of its binade, unless the binade begins with it. -/
theorem units_pred_add {scale significand : Nat} (most : significand ≤ 2 * binade)
    (least : binade ≤ significand ∨ scale = 0) (inside : ¬(significand = binade ∧ scale ≠ 0))
    (positive : 0 < scale * binade + significand) :
    units (scale * binade + significand - 1) + 2 ^ scale = units (scale * binade + significand) := by
  have same : Double.scale (scale * binade + significand - 1) = scale := by
    simp only [Double.scale, binade] at positive least most inside ⊢
    omega
  have step := units_succ (scale * binade + significand - 1)
  rw [Nat.sub_add_cancel positive, same] at step
  exact step.symm

/-- A significand that is rounded in its binade gives a rank between whose midpoints the number
    lies. Below the first significand of a binade the spacing halves, but a number that is rounded
    there is not smaller than it. -/
theorem surrounds_of_rounded {scale significand numerator denominator width : Nat}
    (positive : 0 < denominator) (isWidth : width = denominator * 2 ^ scale)
    (most : significand ≤ 2 * binade) (least : binade ≤ significand ∨ scale = 0)
    (start : binade * width ≤ numerator ∨ scale = 0)
    (low : 2 * numerator ≤ 2 * (significand * width) + width)
    (high : 2 * (significand * width) ≤ 2 * numerator + width)
    (odd : significand % 2 = 1 → 2 * numerator < 2 * (significand * width) + width ∧
      2 * (significand * width) < 2 * numerator + width) :
    Surrounds (scale * binade + significand) numerator denominator := by
  obtain ⟨rank, isRank⟩ : ∃ rank, rank = scale * binade + significand := ⟨_, rfl⟩
  have parity : rank % 2 = significand % 2 := by
    simp only [isRank, binade]
    omega
  have here : units rank * denominator = significand * width := by
    rw [isRank, units_of_binade most least, isWidth]
    ring
  have next : significand * width + width ≤ units (rank + 1) * denominator := by
    have step := Nat.mul_le_mul_right denominator (units_add_le least)
    rwa [← isRank, Nat.add_mul, here, Nat.mul_comm (2 ^ scale), ← isWidth] at step
  have last : rank = 0 ∨ units (rank - 1) * denominator < significand * width ∧
      (significand * width ≤ numerator ∨
        units (rank - 1) * denominator + width = significand * width) := by
    rcases Nat.eq_zero_or_pos rank with zero | some
    · exact Or.inl zero
    · have shrink : units (rank - 1) * denominator < significand * width := by
        rw [← here]
        exact Nat.mul_lt_mul_of_pos_right (units_strictMono (by omega)) positive
      refine Or.inr ⟨shrink, ?_⟩
      by_cases edge : significand = binade ∧ scale ≠ 0
      · exact Or.inl (edge.1 ▸ start.resolve_right edge.2)
      · have step := units_pred_add most least edge (isRank ▸ some)
        refine Or.inr ?_
        rw [← here, isRank, ← step, isWidth]
        ring
  rw [← isRank]
  refine ⟨?_, ?_, fun isOdd => ?_, fun isOdd => ?_⟩
  · rw [Nat.add_mul, here]
    rcases last with zero | ⟨shrink, enough | exact'⟩
    · simp only [zero, Nat.zero_sub, units_zero, Nat.zero_mul] at here ⊢
      omega
    · omega
    · omega
  · rw [Nat.add_mul, here]
    omega
  · have := odd (parity ▸ isOdd)
    rw [Nat.add_mul, here]
    rcases last with zero | ⟨shrink, enough | exact'⟩
    · omega
    · omega
    · omega
  · have := odd (parity ▸ isOdd)
    rw [Nat.add_mul, here]
    omega

theorem nearestRank_surrounds (numerator : Nat) {denominator : Nat} (positive : 0 < denominator) :
    Surrounds (nearestRank numerator denominator) numerator denominator := by
  rw [nearestRank_eq]
  obtain ⟨below, above⟩ := binadeOf_bounds (numerator / denominator)
  generalize binadeOf (numerator / denominator) = scale at below above ⊢
  obtain ⟨width, isWidth⟩ : ∃ width, width = denominator * 2 ^ scale := ⟨_, rfl⟩
  have wide : 0 < width := isWidth ▸ Nat.mul_pos positive (Nat.two_pow_pos scale)
  rw [← isWidth]
  obtain ⟨low, high⟩ := roundHalfEven_bounds numerator wide
  have odd := roundHalfEven_odd numerator wide
  generalize roundHalfEven numerator width = significand at low high odd ⊢
  have inside : numerator < 2 * binade * width := by
    calc
      numerator < 2 * binade * 2 ^ scale * denominator := (Nat.div_lt_iff_lt_mul positive).mp below
      _ = 2 * binade * width := by rw [isWidth]; ring
  have start : binade * width ≤ numerator ∨ scale = 0 := by
    refine above.imp_left fun enough => ?_
    calc
      binade * width = binade * 2 ^ scale * denominator := by rw [isWidth]; ring
      _ ≤ numerator := (Nat.le_div_iff_mul_le positive).mp enough
  have most : significand ≤ 2 * binade := by
    by_contra more
    have : (2 * binade + 1) * width ≤ significand * width := Nat.mul_le_mul_right _ (by omega)
    have : (2 * binade + 1) * width = 2 * binade * width + width := by ring
    omega
  have least : binade ≤ significand ∨ scale = 0 := by
    refine start.imp_left fun enough => ?_
    by_contra less
    have : (significand + 1) * width ≤ binade * width := Nat.mul_le_mul_right _ (by omega)
    have : (significand + 1) * width = significand * width + width := by ring
    omega
  exact surrounds_of_rounded positive isWidth most least start low high odd

/-- A number of units rounds to the one rank between whose midpoints it lies. -/
theorem nearestRank_eq_iff {rank numerator denominator : Nat} (positive : 0 < denominator) :
    nearestRank numerator denominator = rank ↔ Surrounds rank numerator denominator :=
  ⟨fun same => same ▸ nearestRank_surrounds numerator positive,
    fun between => (nearestRank_surrounds numerator positive).unique positive between⟩

theorem nearestRank_mono {least most denominator : Nat} (positive : 0 < denominator)
    (order : least ≤ most) : nearestRank least denominator ≤ nearestRank most denominator :=
  Nat.not_lt.mp <| (nearestRank_surrounds most positive).not_lt positive order
    (nearestRank_surrounds least positive)

end JsonQuery.Double

import Mathlib.Tactic
import Mathlib.Data.List.Sort
import JsonQuery.Slice

/-! # Slices as sets of indices

A slice picks the indices between two bounds that lie a multiple of the stride away from the first
of them. The bounds are clamped before they are compared, and the direction is that of the stride.
-/

namespace JsonQuery.Slice

def counted (length : Nat) (bound : Int) : Int := if bound < 0 then bound + length else bound

/-- The indices of a slice, by the condition on each. -/
def selected (length : Nat) (start stop step : Option Int) : List Nat :=
  let stride := step.getD 1
  if 0 < stride then
    let lower := min (max (counted length (start.getD 0)) 0) length
    let upper := min (max (counted length (stop.getD length)) 0) length
    (List.range length).filter fun (i : Nat) => lower ≤ i ∧ i < upper ∧ stride ∣ i - lower
  else if stride < 0 then
    let upper := min (max (counted length (start.getD (length - 1))) (-1)) (length - 1)
    let lower := min (max (counted length (stop.getD (-length - 1))) (-1)) (length - 1)
    ((List.range length).filter fun (i : Nat) =>
      lower < i ∧ i ≤ upper ∧ stride ∣ upper - i).reverse
  else []

/-! ## One direction at a time -/

theorem mem_upward {first stop step : Int} (positive : 0 < step) (start : 0 ≤ first) {i : Nat} :
    i ∈ upward first stop step ↔ first ≤ i ∧ (i : Int) < stop ∧ step ∣ i - first := by
  unfold upward
  split
  · next nonempty =>
      simp only [List.mem_map, List.mem_range]
      constructor
      · rintro ⟨k, small, rfl⟩
        have nonneg : 0 ≤ step * k := Int.mul_nonneg positive.le (Int.natCast_nonneg k)
        have bound : (k : Int) ≤ (stop - first - 1) / step := by omega
        have below : k * step ≤ stop - first - 1 := (Int.le_ediv_iff_mul_le positive).mp bound
        have comm : step * k = k * step := Int.mul_comm ..
        refine ⟨by omega, by omega, ⟨k, by omega⟩⟩
      · rintro ⟨low, high, ⟨k, multiple⟩⟩
        have nonneg : 0 ≤ k := by
          by_contra negative
          have := Int.mul_neg_of_pos_of_neg positive (by omega : k < 0)
          omega
        have comm : step * k = k * step := Int.mul_comm ..
        have bound : k ≤ (stop - first - 1) / step :=
          (Int.le_ediv_iff_mul_le positive).mpr (by omega)
        have cast : ((k.toNat : Nat) : Int) = k := Int.toNat_of_nonneg nonneg
        refine ⟨k.toNat, by omega, ?_⟩
        rw [cast]
        omega
  · next empty =>
      simp only [List.not_mem_nil, false_iff]
      omega

theorem pairwise_upward {first stop step : Int} (positive : 0 < step) (start : 0 ≤ first) :
    (upward first stop step).Pairwise (· < ·) := by
  unfold upward
  split
  · refine List.pairwise_map.mpr (List.pairwise_lt_range.imp ?_)
    intro a b less
    have : step * a < step * b := by
      exact Int.mul_lt_mul_of_pos_left (by omega) positive
    have : 0 ≤ step * a := Int.mul_nonneg positive.le (Int.natCast_nonneg a)
    omega
  · exact List.Pairwise.nil

theorem mem_downward {first stop step : Int} (negative : step < 0) (lowest : -1 ≤ stop) {i : Nat} :
    i ∈ downward first stop step ↔ stop < i ∧ (i : Int) ≤ first ∧ step ∣ first - i := by
  unfold downward
  split
  · next nonempty =>
      simp only [List.mem_map, List.mem_range]
      constructor
      · rintro ⟨k, small, rfl⟩
        have nonneg : 0 ≤ -step * k := Int.mul_nonneg (by omega) (Int.natCast_nonneg k)
        have bound : (k : Int) ≤ (first - stop - 1) / (-step) := by omega
        have above : k * -step ≤ first - stop - 1 := (Int.le_ediv_iff_mul_le (by omega)).mp bound
        have comm : -step * k = k * -step := Int.mul_comm ..
        have sign : -step * k = -(step * k) := Int.neg_mul ..
        refine ⟨by omega, by omega, ⟨-k, ?_⟩⟩
        have sign' : step * -k = -(step * k) := Int.mul_neg ..
        omega
      · rintro ⟨low, high, ⟨k, multiple⟩⟩
        have nonpos : k ≤ 0 := by
          by_contra positive
          have := Int.mul_neg_of_neg_of_pos negative (by omega : 0 < k)
          omega
        have sign : -k * -step = step * k := by rw [Int.neg_mul_neg, Int.mul_comm]
        have bound : -k ≤ (first - stop - 1) / (-step) :=
          (Int.le_ediv_iff_mul_le (by omega)).mpr (by omega)
        have cast : (((-k).toNat : Nat) : Int) = -k := Int.toNat_of_nonneg (by omega)
        have sign' : step * -k = -(step * k) := Int.mul_neg ..
        refine ⟨(-k).toNat, by omega, ?_⟩
        rw [cast]
        omega
  · next empty =>
      simp only [List.not_mem_nil, false_iff]
      omega

theorem pairwise_downward {first stop step : Int} (negative : step < 0) (lowest : -1 ≤ stop) :
    (downward first stop step).Pairwise (· > ·) := by
  unfold downward
  split
  · next nonempty =>
      refine List.pairwise_map.mpr (List.pairwise_lt_range.imp_of_mem ?_)
      intro a b _ small less
      have less' : step * b < step * a := Int.mul_lt_mul_of_neg_left (by omega) negative
      have bound : (b : Int) ≤ (first - stop - 1) / (-step) := by
        have := List.mem_range.mp small
        omega
      have above : b * -step ≤ first - stop - 1 := (Int.le_ediv_iff_mul_le (by omega)).mp bound
      have sign : (b : Int) * -step = -(step * b) := by rw [Int.mul_neg, Int.mul_comm]
      omega
  · exact List.Pairwise.nil

/-! ## Both directions -/

theorem normalize_eq_counted (length : Nat) (bound : Int) :
    normalize length bound = counted length bound := by
  unfold normalize counted
  split <;> split <;> omega

theorem clamp_eq (low high value : Int) (le : low ≤ high) :
    clamp low high value = min (max value low) high := by
  unfold clamp
  omega

/-- The indices of a slice are those between its bounds and on its stride, in its direction. -/
theorem indices_eq_selected (length : Nat) (start stop step : Option Int) :
    indices length start stop step = selected length start stop step := by
  unfold indices selected
  simp only [normalize_eq_counted]
  split
  · next positive =>
      rw [clamp_eq 0 length _ (by omega), clamp_eq 0 length _ (by omega)]
      refine (pairwise_upward positive (by omega)).eq_of_mem_iff
        (List.pairwise_lt_range.filter _) fun i => ?_
      rw [mem_upward positive (by omega)]
      simp only [List.mem_filter, List.mem_range, decide_eq_true_eq]
      constructor
      · rintro ⟨low, high, multiple⟩
        exact ⟨by omega, low, high, multiple⟩
      · rintro ⟨_, within⟩
        exact within
  · split
    · next negative =>
        rw [clamp_eq (-1) (length - 1) _ (by omega), clamp_eq (-1) (length - 1) _ (by omega)]
        refine (pairwise_downward negative (by omega)).eq_of_mem_iff
          (List.pairwise_reverse.mpr (List.pairwise_lt_range.filter _)) fun i => ?_
        rw [mem_downward negative (by omega)]
        simp only [List.mem_reverse, List.mem_filter, List.mem_range, decide_eq_true_eq]
        constructor
        · rintro ⟨low, high, multiple⟩
          exact ⟨by omega, low, high, multiple⟩
        · rintro ⟨_, within⟩
          exact within
    · rfl

theorem nodup_indices (length : Nat) (start stop step : Option Int) :
    (indices length start stop step).Nodup := by
  rw [indices_eq_selected, selected]
  split
  · exact List.nodup_range.filter _
  · split
    · exact List.nodup_reverse.mpr (List.nodup_range.filter _)
    · exact List.nodup_nil

end JsonQuery.Slice

import JsonQuery.Proofs.SliceIndices
import JsonQuery.Slice.Guarded

/-! # Slices are reckoned in 64 bits

The indices of a slice are found one after the other, by adding the stride to the last one. No sum
on the way leaves the signed integers of 64 bits, the last one past the end included, so the guarded
selection never fails and finds the indices between the bounds and on the stride.
-/

namespace JsonQuery.Slice

/-! ## One stride at a time -/

/-- The number of strides that begin within a distance. -/
def strides (distance stride : Int) : Nat :=
  if 0 < distance then ((distance - 1) / stride + 1).toNat else 0

theorem strides_succ {distance stride : Int} (within : 0 < distance) (positive : 0 < stride) :
    strides distance stride = strides (distance - stride) stride + 1 := by
  have nonneg : 0 ≤ (distance - 1) / stride := Int.ediv_nonneg (by omega) positive.le
  unfold strides
  rw [if_pos within]
  split
  · have step : (distance - 1) / stride = (distance - stride - 1) / stride + 1 := by
      have split : distance - 1 = distance - stride - 1 + stride := by omega
      rw [split, Int.add_ediv_of_dvd_right (Int.dvd_refl stride), Int.ediv_self positive.ne']
    omega
  · next last =>
      have none : (distance - 1) / stride = 0 := Int.ediv_eq_zero_of_lt (by omega) (by omega)
      rw [none]
      rfl

theorem upward_eq_strides (first stop step : Int) :
    upward first stop step =
      (List.range (strides (stop - first) step)).map fun (i : Nat) => (first + step * i).toNat := by
  unfold upward strides
  by_cases within : first < stop
  · rw [if_pos within, if_pos (by omega)]
  · rw [if_neg within, if_neg (by omega)]
    rfl

theorem downward_eq_strides (first stop step : Int) :
    downward first stop step =
      (List.range (strides (first - stop) (-step))).map fun (i : Nat) =>
        (first + step * i).toNat := by
  unfold downward strides
  by_cases within : stop < first
  · rw [if_pos within, if_pos (by omega)]
  · rw [if_neg within, if_neg (by omega)]
    rfl

theorem map_range_succ (first step : Int) (count : Nat) :
    ((List.range (count + 1)).map fun (i : Nat) => (first + step * i).toNat) =
      first.toNat :: (List.range count).map fun (i : Nat) => (first + step + step * i).toNat := by
  rw [List.range_succ_eq_map, List.map_cons, List.map_map]
  congr 1
  · simp
  · refine List.map_congr_left fun i _ => ?_
    have next : step * ((i : Int) + 1) = step + step * i := by ring
    simp only [Function.comp_apply, Nat.succ_eq_add_one, Nat.cast_add, Nat.cast_one, next,
      Int.add_assoc]

theorem upward_cons {first stop step : Int} (positive : 0 < step) (within : first < stop) :
    upward first stop step = first.toNat :: upward (first + step) stop step := by
  rw [upward_eq_strides, strides_succ (by omega) positive, map_range_succ, upward_eq_strides]
  congr 4
  omega

theorem downward_cons {first stop step : Int} (negative : step < 0) (within : stop < first) :
    downward first stop step = first.toNat :: downward (first + step) stop step := by
  rw [downward_eq_strides, strides_succ (by omega) (by omega), map_range_succ, downward_eq_strides]
  congr 4
  omega

/-! ## No sum leaves the range -/

theorem held?_eq {value : Int} (low : -2 ^ 63 ≤ value) (high : value < 2 ^ 63) :
    held? value = some value := by
  refine if_pos (Bool.and_eq_true_iff.mpr ⟨decide_eq_true ?_, decide_eq_true ?_⟩)
  · exact low
  · exact high

/-- Going upwards, every sum lies below the end by a stride at most. -/
theorem upward?_eq {stop step : Int} (positive : 0 < step) (room : stop + step ≤ 2 ^ 63)
    {index : Int} (low : -2 ^ 63 ≤ index) :
    upward? stop positive index = some (upward index stop step) := by
  induction distance : (stop - index).toNat using Nat.strong_induction_on generalizing index with
  | _ _ ih =>
      rw [upward?]
      split
      · next within =>
          have more := ih _ (by omega) (by omega : -2 ^ 63 ≤ index + step) rfl
          rw [held?_eq (by omega) (by omega), Option.bind_some, more, upward_cons positive within]
          rfl
      · next past => rw [upward, if_neg past]

/-- Going downwards, every sum lies above the end by a stride at most. -/
theorem downward?_eq {stop step : Int} (negative : step < 0) (room : -2 ^ 63 ≤ stop + step)
    {index : Int} (high : index < 2 ^ 63) :
    downward? stop negative index = some (downward index stop step) := by
  induction distance : (index - stop).toNat using Nat.strong_induction_on generalizing index with
  | _ _ ih =>
      rw [downward?]
      split
      · next within =>
          have more := ih _ (by omega) (by omega : index + step < 2 ^ 63) rfl
          rw [held?_eq (by omega) (by omega), Option.bind_some, more, downward_cons negative within]
          rfl
      · next past => rw [downward, if_neg past]

theorem normalize?_eq {size bound : Int} (nonneg : 0 ≤ size) (short : size < 2 ^ 62)
    (low : -2 ^ 63 ≤ bound) : normalize? size bound = some (normalize size bound) := by
  unfold normalize? normalize
  split
  · rfl
  · exact held?_eq (by omega) (by omega)

/-- What it means to pick the indices of a slice from `length` items: those between the bounds, and
on the stride counted from the first bound, in the direction of the stride. -/
structure Picks (length : Nat) (start stop step : Option Int) (picked : List Nat) : Prop where
  upward : 0 < step.getD 1 →
    let lower := min (max (counted length (start.getD 0)) 0) length
    let upper := min (max (counted length (stop.getD length)) 0) length
    picked.Pairwise (· < ·) ∧
      ∀ i : Nat, i ∈ picked ↔ lower ≤ i ∧ i < upper ∧ step.getD 1 ∣ i - lower
  downward : step.getD 1 < 0 →
    let upper := min (max (counted length (start.getD (length - 1))) (-1)) (length - 1)
    let lower := min (max (counted length (stop.getD (-length - 1))) (-1)) (length - 1)
    picked.Pairwise (· > ·) ∧
      ∀ i : Nat, i ∈ picked ↔ lower < i ∧ i ≤ upper ∧ -step.getD 1 ∣ upper - i
  /-- A stride of zero picks nothing. -/
  still : step.getD 1 = 0 → picked = []
  /-- Every index is that of an item. -/
  inside : ∀ i ∈ picked, i < length
  /-- No index is picked twice. -/
  distinct : picked.Nodup

theorem picks_indices (length : Nat) (start stop step : Option Int) :
    Picks length start stop step (indices length start stop step) := by
  rw [indices_eq_selected]
  unfold selected
  rcases lt_trichotomy 0 (step.getD 1) with positive | zero | negative
  · rw [if_pos positive]
    refine ⟨fun _ => ⟨List.pairwise_lt_range.filter _, fun i => ?_⟩, fun negative => by omega,
      fun zero => by omega, fun i picked => ?_, List.nodup_range.filter _⟩
    · simp only [List.mem_filter, List.mem_range, decide_eq_true_eq]
      refine ⟨fun picked => picked.2, fun within => ⟨by omega, within⟩⟩
    · exact List.mem_range.mp (List.mem_of_mem_filter picked)
  · rw [if_neg (by omega), if_neg (by omega)]
    exact ⟨fun positive => by omega, fun negative => by omega, fun _ => rfl,
      fun i picked => absurd picked List.not_mem_nil, List.nodup_nil⟩
  · rw [if_neg (by omega), if_pos negative]
    refine ⟨fun positive => by omega,
      fun _ => ⟨List.pairwise_reverse.mpr (List.pairwise_lt_range.filter _), fun i => ?_⟩,
      fun zero => by omega, fun i picked => ?_, List.nodup_reverse.mpr (List.nodup_range.filter _)⟩
    · simp only [List.mem_reverse, List.mem_filter, List.mem_range, decide_eq_true_eq, Int.neg_dvd]
      refine ⟨fun picked => picked.2, fun within => ⟨by omega, within⟩⟩
    · exact List.mem_range.mp (List.mem_of_mem_filter (List.mem_reverse.mp picked))

theorem clamp_bounds {low high : Int} (le : low ≤ high) (value : Int) :
    low ≤ clamp low high value ∧ clamp low high value ≤ high := by
  unfold clamp
  omega

theorem le_getD {least absent : Int} {given : Option Int} (present : ∀ value ∈ given, least ≤ value)
    (default : least ≤ absent) : least ≤ given.getD absent := by
  cases given with
  | none => exact default
  | some value => exact present value rfl

/-- No integer on the way leaves the range, for bounds that are held and strides that are safe. -/
theorem indices?_eq {length : Nat} (short : length < 2 ^ 62) {start stop step : Option Int}
    (startHeld : ∀ bound ∈ start, -2 ^ 63 ≤ bound) (stopHeld : ∀ bound ∈ stop, -2 ^ 63 ≤ bound)
    (stepSafe : ∀ stride ∈ step, |stride| ≤ 2 ^ 53 - 1) :
    indices? length start stop step = some (indices length start stop step) := by
  have stride : |step.getD 1| ≤ 2 ^ 53 - 1 := by
    cases step with
    | none => decide
    | some stride => exact stepSafe stride rfl
  obtain ⟨slow, fast⟩ := abs_le.mp stride
  rcases Nat.eq_zero_or_pos length with rfl | nonempty
  · have nothing : indices 0 start stop step = [] :=
      List.eq_nil_iff_forall_not_mem.mpr fun i picked =>
        Nat.not_lt_zero i ((picks_indices 0 start stop step).inside i picked)
    rw [indices?, if_pos rfl, nothing]
  · have size : held? length = some (length : Int) := held?_eq (by omega) (by omega)
    have normal := fun {given : Option Int} (held : ∀ bound ∈ given, -2 ^ 63 ≤ bound) {absent : Int}
        (default : -2 ^ 63 ≤ absent) =>
      normalize?_eq (by omega : (0 : Int) ≤ length) (by omega) (le_getD held default)
    rw [indices?, if_neg (by omega), size, Option.bind_some]
    unfold indices
    by_cases positive : 0 < step.getD 1
    · have upper := clamp_bounds (by omega : (0 : Int) ≤ length)
        (normalize length (stop.getD length))
      have lower := clamp_bounds (by omega : (0 : Int) ≤ length)
        (normalize length (start.getD 0))
      rw [dif_pos positive, if_pos positive, normal startHeld (by decide), Option.bind_some,
        normal stopHeld (by omega), Option.bind_some, upward?_eq positive (by omega) (by omega)]
    · by_cases negative : step.getD 1 < 0
      · have upper := clamp_bounds (by omega : (-1 : Int) ≤ length - 1)
          (normalize length (start.getD (length - 1)))
        have lower := clamp_bounds (by omega : (-1 : Int) ≤ length - 1)
          (normalize length (stop.getD (-length - 1)))
        rw [dif_neg positive, dif_pos negative, if_neg positive, if_pos negative,
          held?_eq (by omega) (by omega), Option.bind_some, held?_eq (by omega) (by omega),
          Option.bind_some, held?_eq (by omega) (by omega), Option.bind_some,
          normal startHeld (by omega), Option.bind_some, normal stopHeld (by omega),
          Option.bind_some, downward?_eq negative (by omega) (by omega)]
      · rw [dif_neg positive, dif_neg negative, if_neg positive, if_neg negative]

/-- For bounds that 64 bits hold and a safe stride, reckoning the indices of a slice never leaves the
signed integers of 64 bits, and finds those between the bounds and on the stride. -/
theorem indices_held_and_picked {length : Nat} (short : length < 2 ^ 62)
    {start stop step : Option Int}
    (startHeld : ∀ bound ∈ start, -2 ^ 63 ≤ bound ∧ bound < 2 ^ 63)
    (stopHeld : ∀ bound ∈ stop, -2 ^ 63 ≤ bound ∧ bound < 2 ^ 63)
    (stepSafe : ∀ stride ∈ step, |stride| ≤ 2 ^ 53 - 1) :
    indices? length start stop step = some (indices length start stop step) ∧
      Picks length start stop step (indices length start stop step) := by
  have startLow : ∀ bound ∈ start, -2 ^ 63 ≤ bound := fun bound given => (startHeld bound given).1
  have stopLow : ∀ bound ∈ stop, -2 ^ 63 ≤ bound := fun bound given => (stopHeld bound given).1
  exact ⟨indices?_eq short startLow stopLow stepSafe, picks_indices length start stop step⟩

/-- The longest array and the longest stride, backwards from the end to the least bound there is, and
from the end over two strides. -/
theorem indices_held_and_picked_backwards :
    indices? (2 ^ 62 - 1) (some (-2 ^ 62)) (some (-2 ^ 63)) (some (-(2 ^ 53 - 1))) = some [] ∧
      indices? (2 ^ 62 - 1) none (some (-2 ^ 54)) (some (-(2 ^ 53 - 1))) =
        some [4611686018427387902, 4602678819172646911, 4593671619917905920] ∧
      Picks (2 ^ 62 - 1) none (some (-2 ^ 54)) (some (-(2 ^ 53 - 1)))
        [4611686018427387902, 4602678819172646911, 4593671619917905920] := by
  have safe : ∀ stride ∈ some (-(2 ^ 53 - 1) : Int), |stride| ≤ 2 ^ 53 - 1 := by
    rintro stride ⟨⟩
    decide
  have held : ∀ given : Int, -2 ^ 63 ≤ given ∧ given < 2 ^ 63 →
      ∀ bound ∈ some given, -2 ^ 63 ≤ bound ∧ bound < 2 ^ 63 := by
    rintro given within bound ⟨⟩
    exact within
  have absent : ∀ bound ∈ (none : Option Int), -2 ^ 63 ≤ bound ∧ bound < 2 ^ 63 := by
    rintro bound ⟨⟩
  have short : 2 ^ 62 - 1 < 2 ^ 62 := by decide
  have nothing := indices_held_and_picked short (held (-2 ^ 62) (by decide))
    (held (-2 ^ 63) (by decide)) safe
  have three := indices_held_and_picked short absent (held (-2 ^ 54) (by decide)) safe
  have none' : indices (2 ^ 62 - 1) (some (-2 ^ 62)) (some (-2 ^ 63)) (some (-(2 ^ 53 - 1))) = [] := by
    decide +kernel
  have three' : indices (2 ^ 62 - 1) none (some (-2 ^ 54)) (some (-(2 ^ 53 - 1))) =
      [4611686018427387902, 4602678819172646911, 4593671619917905920] := by
    decide +kernel
  rw [none'] at nothing
  rw [three'] at three
  exact ⟨nothing.1, three⟩

end JsonQuery.Slice

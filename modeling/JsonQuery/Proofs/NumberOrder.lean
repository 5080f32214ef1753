import JsonQuery.Number
import JsonQuery.Proofs.Rounding

/-! # The order of numbers

Two integers that both fit with a sign, or both without one, are compared as they are, and all other
numbers by the ranks of their doubles. Rounding to a double keeps the order of integers but not its
strictness, so the two ways of comparing never disagree about the direction.
-/

namespace JsonQuery

namespace Double

/-! ## Integers as doubles -/

/-- The number of units in one. -/
def unitsOfOne : Nat := 1 <<< 1074

theorem shiftLeft_units (n : Nat) : n <<< 1074 = n * unitsOfOne := by
  rw [unitsOfOne, Nat.shiftLeft_eq, Nat.one_shiftLeft]

theorem unitsOfOne_pos : 0 < unitsOfOne := by
  rw [unitsOfOne, Nat.one_shiftLeft]
  exact Nat.two_pow_pos 1074

/-- The rank of the double nearest to a natural number, the largest one when it is out of reach. -/
def rankOfNat (n : Nat) : Nat := min (nearestRank (n <<< 1074) 1) (count - 1)

theorem rankOfNat_lt (n : Nat) : rankOfNat n < count := by
  have positive : 0 < count := by decide
  have most : rankOfNat n ≤ count - 1 := min_le_right _ _
  omega

theorem ofInt_eq (n : Int) :
    ofInt n = ⟨decide (n < 0), rankOfNat n.natAbs, rankOfNat_lt n.natAbs⟩ := by
  obtain ⟨rank, isRank⟩ : ∃ rank, rank = nearestRank (n.natAbs <<< 1074) 1 := ⟨_, rfl⟩
  have positive : 0 < count := by decide
  simp only [ofInt, ofRank?, rankOfNat, ← isRank]
  split
  · next finite => simp only [Option.getD_some, Nat.min_eq_left (show rank ≤ count - 1 by omega)]
  · next large =>
      simp only [Option.getD_none, largest, Nat.min_eq_right (show count - 1 ≤ rank by omega)]

theorem key_ofInt (n : Int) :
    (ofInt n).key = if n < 0 then -(rankOfNat n.natAbs : Int) else rankOfNat n.natAbs := by
  rw [ofInt_eq]
  simp only [key, decide_eq_true_eq]

theorem rankOfNat_mono {least most : Nat} (order : least ≤ most) :
    rankOfNat least ≤ rankOfNat most := by
  refine min_le_min_right (count - 1) (nearestRank_mono Nat.one_pos ?_)
  rw [shiftLeft_units, shiftLeft_units]
  exact Nat.mul_le_mul_right _ order

/-- A natural number that is the magnitude of a double is not rounded. -/
theorem rankOfNat_of_units {n rank : Nat} (finite : rank < count)
    (same : units rank = n * unitsOfOne) : rankOfNat n = rank := by
  have nearest : nearestRank (n <<< 1074) 1 = rank := by
    rw [shiftLeft_units, ← same]
    exact (nearestRank_eq_iff Nat.one_pos).mpr (surrounds_units rank)
  rw [rankOfNat, nearest]
  exact Nat.min_eq_left (by omega)

/-- A number up to `2 ^ 53` is shifted until it fills a significand. -/
theorem exists_shift {n : Nat} (positive : 0 < n) (small : n ≤ 2 ^ 53) :
    ∃ shift, shift ≤ 52 ∧ binade ≤ n * 2 ^ shift ∧ n * 2 ^ shift ≤ 2 * binade := by
  have power : binade = 2 ^ 52 := by decide
  rcases small.eq_or_lt with rfl | inside
  · exact ⟨0, by decide⟩
  · have log : Nat.log2 n ≤ 52 := by
      have := (Nat.log2_lt positive.ne').mpr inside
      omega
    refine ⟨52 - Nat.log2 n, by omega, ?_, ?_⟩
    · calc
        binade = 2 ^ Nat.log2 n * 2 ^ (52 - Nat.log2 n) := by
          rw [power, ← Nat.pow_add, Nat.add_sub_cancel' log]
        _ ≤ n * 2 ^ (52 - Nat.log2 n) := Nat.mul_le_mul_right _ (Nat.log2_self_le positive.ne')
    · calc
        n * 2 ^ (52 - Nat.log2 n) ≤ 2 ^ (Nat.log2 n + 1) * 2 ^ (52 - Nat.log2 n) :=
          Nat.mul_le_mul_right _ Nat.lt_log2_self.le
        _ = 2 * binade := by
          rw [power, ← Nat.pow_add, ← Nat.pow_succ']
          congr 1
          omega

theorem exists_units_eq {n : Nat} (small : n ≤ 2 ^ 53) :
    ∃ rank, rank < count ∧ units rank = n * unitsOfOne := by
  rcases Nat.eq_zero_or_pos n with rfl | positive
  · exact ⟨0, by decide, by rw [units_zero, Nat.zero_mul]⟩
  · obtain ⟨bits, isBits⟩ : ∃ bits, bits = 1074 := ⟨_, rfl⟩
    obtain ⟨shift, few, least, most⟩ := exists_shift positive small
    refine ⟨(bits - shift) * binade + n * 2 ^ shift, ?_, ?_⟩
    · simp only [count, binade] at most ⊢
      omega
    · rw [units_of_binade most (Or.inl least), Nat.mul_assoc, ← Nat.pow_add,
        Nat.add_sub_cancel' (by omega), unitsOfOne, Nat.one_shiftLeft, isBits]

theorem rankOfNat_pos {n : Nat} (positive : 0 < n) : 0 < rankOfNat n := by
  obtain ⟨rank, finite, same⟩ := exists_units_eq (show 1 ≤ 2 ^ 53 by decide)
  have isRank := rankOfNat_of_units finite same
  have nonzero : rank ≠ 0 := by
    rintro rfl
    rw [units_zero] at same
    have := unitsOfOne_pos
    omega
  have : rankOfNat 1 ≤ rankOfNat n := rankOfNat_mono positive
  omega

theorem key_ofInt_mono {a b : Int} (order : a ≤ b) : (ofInt a).key ≤ (ofInt b).key := by
  rw [key_ofInt, key_ofInt]
  split
  · next first =>
      split
      · next second =>
          have := rankOfNat_mono (show b.natAbs ≤ a.natAbs by omega)
          omega
      · omega
  · next first =>
      rw [if_neg (by omega)]
      have := rankOfNat_mono (show a.natAbs ≤ b.natAbs by omega)
      omega

/-- No integer is rounded to another sign, nor to zero. -/
theorem key_ofInt_lt_of_sign {a b : Int} (negative : a < 0) (other : 0 ≤ b) :
    (ofInt a).key < (ofInt b).key := by
  have := rankOfNat_pos (show 0 < a.natAbs by omega)
  rw [key_ofInt, key_ofInt, if_pos negative, if_neg (by omega)]
  omega

end Double

namespace Number

/-! ## The two ways of comparing -/

variable {a b c : Number}

/-- The order of the double of a number. -/
def key (a : Number) : Int := a.toDouble.key

theorem key_int (x : Int) : (int x).key = (Double.ofInt x).key := rfl

/-- Two numbers are integers that are compared as they are. -/
structure Exact (a b : Number) (x y : Int) : Prop where
  left : a = .int x
  right : b = .int y
  fit : (isSigned x = true ∧ isSigned y = true) ∨ (isUnsigned x = true ∧ isUnsigned y = true)

theorem Exact.symm {x y : Int} (isExact : Exact a b x y) : Exact b a y x :=
  ⟨isExact.right, isExact.left, isExact.fit.imp And.symm And.symm⟩

theorem isSigned_iff {x : Int} : isSigned x = true ↔ leastInt ≤ x ∧ x < signedLimit := by
  simp [isSigned]

theorem isUnsigned_iff {x : Int} : isUnsigned x = true ↔ 0 ≤ x ∧ x < unsignedLimit := by
  simp [isUnsigned]

theorem signed?_eq_some {x : Int} : a.signed? = some x ↔ a = .int x ∧ isSigned x = true := by
  cases a with
  | int value => grind [signed?]
  | float value => simp [signed?]

theorem unsigned?_eq_some {x : Int} : a.unsigned? = some x ↔ a = .int x ∧ isUnsigned x = true := by
  cases a with
  | int value => grind [unsigned?]
  | float value => simp [unsigned?]

/-- Either two numbers are integers that fit in the same way, or they are compared by their keys. -/
theorem cmp_cases (a b : Number) :
    (∃ x y, Exact a b x y ∧ a.cmp b = compare x y) ∨
      ((¬∃ x y, Exact a b x y) ∧ a.cmp b = compare a.key b.key) := by
  rw [cmp]
  split
  · next x y first second =>
      obtain ⟨isFirst, firstFits⟩ := signed?_eq_some.mp first
      obtain ⟨isSecond, secondFits⟩ := signed?_eq_some.mp second
      exact Or.inl ⟨x, y, ⟨isFirst, isSecond, Or.inl ⟨firstFits, secondFits⟩⟩, rfl⟩
  · next notSigned =>
      split
      · next x y first second =>
          obtain ⟨isFirst, firstFits⟩ := unsigned?_eq_some.mp first
          obtain ⟨isSecond, secondFits⟩ := unsigned?_eq_some.mp second
          exact Or.inl ⟨x, y, ⟨isFirst, isSecond, Or.inr ⟨firstFits, secondFits⟩⟩, rfl⟩
      · next notUnsigned =>
          refine Or.inr ⟨?_, rfl⟩
          rintro ⟨x, y, isFirst, isSecond, ⟨firstFits, secondFits⟩ | ⟨firstFits, secondFits⟩⟩
          · exact notSigned x y (signed?_eq_some.mpr ⟨isFirst, firstFits⟩)
              (signed?_eq_some.mpr ⟨isSecond, secondFits⟩)
          · exact notUnsigned x y (unsigned?_eq_some.mpr ⟨isFirst, firstFits⟩)
              (unsigned?_eq_some.mpr ⟨isSecond, secondFits⟩)

theorem cmp_of_exact {x y : Int} (isExact : Exact a b x y) : a.cmp b = compare x y := by
  obtain ⟨x', y', other, same⟩ | ⟨rounded, _⟩ := cmp_cases a b
  · obtain ⟨rfl, rfl, _⟩ := isExact
    cases other.left
    cases other.right
    exact same
  · exact absurd ⟨x, y, isExact⟩ rounded

theorem cmp_swap (a b : Number) : (a.cmp b).swap = b.cmp a := by
  obtain ⟨x, y, isExact, same⟩ | ⟨rounded, same⟩ := cmp_cases a b
  · rw [same, cmp_of_exact isExact.symm]
    exact Std.OrientedCmp.eq_swap.symm
  · obtain ⟨x, y, other, _⟩ | ⟨_, same'⟩ := cmp_cases b a
    · exact absurd ⟨y, x, other.symm⟩ rounded
    · rw [same, same']
      exact Std.OrientedCmp.eq_swap.symm

/-- Whichever way two numbers are compared, their keys do not run against it. -/
theorem key_le_of_cmp (order : a.cmp b ≠ .gt) : a.key ≤ b.key := by
  obtain ⟨x, y, isExact, same⟩ | ⟨_, same⟩ := cmp_cases a b
  · rw [same] at order
    rw [isExact.left, isExact.right, key_int, key_int]
    exact Double.key_ofInt_mono (compare_le_iff_le.mp order)
  · rw [same] at order
    exact compare_le_iff_le.mp order

theorem cmp_eq_lt_of_key (less : a.key < b.key) : a.cmp b = .lt := by
  have swapped := cmp_swap a b
  cases order : a.cmp b with
  | lt => rfl
  | eq | gt =>
      rw [order] at swapped
      exact absurd (key_le_of_cmp (by rw [← swapped]; decide)) (not_le.mpr less)

/-! ## The order -/

theorem cmp_self (a : Number) : a.cmp a = .eq := by
  obtain ⟨x, y, isExact, same⟩ | ⟨_, same⟩ := cmp_cases a a
  · cases isExact.left.symm.trans isExact.right
    rw [same]
    exact Std.ReflCmp.compare_self
  · rw [same]
    exact Std.ReflCmp.compare_self

/-- Of two numbers with one key, only integers that are compared as they are can differ. -/
theorem exact_of_lt (order : a.cmp b = .lt) (same : a.key = b.key) :
    ∃ x y, Exact a b x y ∧ x < y := by
  obtain ⟨x, y, isExact, isOrder⟩ | ⟨_, isOrder⟩ := cmp_cases a b
  · rw [order] at isOrder
    exact ⟨x, y, isExact, compare_lt_iff_lt.mp isOrder.symm⟩
  · rw [order] at isOrder
    exact absurd same (compare_lt_iff_lt.mp isOrder.symm).ne

theorem unsigned_or_sign {x y : Int} (first : isSigned x = true) (second : isUnsigned y = true) :
    isUnsigned x = true ∨ (x < 0 ∧ 0 ≤ y) := by
  rw [isSigned_iff] at first
  rw [isUnsigned_iff] at second ⊢
  simp only [signedLimit, unsignedLimit] at *
  omega

/-- Integers on either side of a third one are compared as they are, unless their signs already tell
    them apart. -/
theorem Exact.trans {x y z : Int} (first : Exact a b x y) (second : Exact b c y z)
    (same : a.key = c.key) : Exact a c x z := by
  refine ⟨first.left, second.right, ?_⟩
  obtain ⟨xFits, yFits⟩ | ⟨xFits, yFits⟩ := first.fit
  · obtain ⟨_, zFits⟩ | ⟨_, zFits⟩ := second.fit
    · exact Or.inl ⟨xFits, zFits⟩
    · rcases unsigned_or_sign xFits zFits with xFits' | ⟨negative, other⟩
      · exact Or.inr ⟨xFits', zFits⟩
      · have := Double.key_ofInt_lt_of_sign negative other
        rw [first.left, second.right, key_int, key_int] at same
        omega
  · obtain ⟨_, zFits⟩ | ⟨_, zFits⟩ := second.fit
    · rcases unsigned_or_sign zFits xFits with zFits' | ⟨negative, other⟩
      · exact Or.inr ⟨xFits, zFits'⟩
      · have := Double.key_ofInt_lt_of_sign negative other
        rw [first.left, second.right, key_int, key_int] at same
        omega
    · exact Or.inr ⟨xFits, zFits⟩

theorem cmp_lt_trans (ab : a.cmp b = .lt) (bc : b.cmp c = .lt) : a.cmp c = .lt := by
  have first : a.key ≤ b.key := key_le_of_cmp (by rw [ab]; decide)
  have second : b.key ≤ c.key := key_le_of_cmp (by rw [bc]; decide)
  rcases (first.trans second).lt_or_eq with less | same
  · exact cmp_eq_lt_of_key less
  · -- with one key for all three, both comparisons are of integers
    obtain ⟨x, y, ab', less⟩ := exact_of_lt ab (by omega)
    obtain ⟨y', z, bc', more⟩ := exact_of_lt bc (by omega)
    cases ab'.right.symm.trans bc'.left
    rw [cmp_of_exact (ab'.trans bc' same)]
    exact compare_lt_iff_lt.mpr (less.trans more)

/-- An integer of 64 bits, with a sign or without. -/
def IsHeld (x : Int) : Prop := leastInt ≤ x ∧ x < unsignedLimit

instance (x : Int) : Decidable (IsHeld x) :=
  inferInstanceAs (Decidable (leastInt ≤ x ∧ x < unsignedLimit))

theorem IsHeld.fits {x : Int} (held : IsHeld x) : isSigned x = true ∨ isUnsigned x = true := by
  rw [isSigned_iff, isUnsigned_iff]
  simp only [IsHeld, signedLimit, unsignedLimit] at *
  omega

/-- The sign tells an integer that needs its sign from one that is too large for a sign. -/
theorem cmp_int_of_mixed {x y : Int} (first : isSigned x = true) (second : isUnsigned y = true) :
    (int x).cmp (int y) = compare x y := by
  rcases unsigned_or_sign first second with first' | ⟨negative, other⟩
  · exact cmp_of_exact ⟨rfl, rfl, Or.inr ⟨first', second⟩⟩
  · have less : (int x).key < (int y).key := by
      rw [key_int, key_int]
      exact Double.key_ofInt_lt_of_sign negative other
    rw [cmp_eq_lt_of_key less]
    exact (compare_lt_iff_lt.mpr (negative.trans_le other)).symm

theorem cmp_int {x y : Int} (first : IsHeld x) (second : IsHeld y) :
    (int x).cmp (int y) = compare x y := by
  rcases first.fits with xFits | xFits
  · rcases second.fits with yFits | yFits
    · exact cmp_of_exact ⟨rfl, rfl, Or.inl ⟨xFits, yFits⟩⟩
    · exact cmp_int_of_mixed xFits yFits
  · rcases second.fits with yFits | yFits
    · rw [← cmp_swap, cmp_int_of_mixed yFits xFits]
      exact Std.OrientedCmp.eq_swap.symm
    · exact cmp_of_exact ⟨rfl, rfl, Or.inr ⟨xFits, yFits⟩⟩

end Number

end JsonQuery

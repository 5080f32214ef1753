import JsonQuery.Proofs.ComparisonLaws

/-! # Equality and exact values

An integer and a double are compared as doubles, so an integer that is no double is equal to the
double next to it, and by way of that double to other integers. Where all integers are doubles, as
those of 53 bits are, numbers are compared by their exact values, and equality is transitive.
-/

namespace JsonQuery

namespace Double

variable {x y : Double}

/-- The exact value in units of `2 ^ -1074`. -/
def signedUnits (x : Double) : Int := if x.negative then -(units x.rank : Int) else units x.rank

theorem units_pos_iff (rank : Nat) : 0 < units rank ↔ 0 < rank := by
  conv_lhs => rw [← units_zero]
  exact units_strictMono.lt_iff_lt

theorem signedUnits_lt_iff : x.signedUnits < y.signedUnits ↔ x.key < y.key := by
  have less : units x.rank < units y.rank ↔ x.rank < y.rank := units_strictMono.lt_iff_lt
  have more : units y.rank < units x.rank ↔ y.rank < x.rank := units_strictMono.lt_iff_lt
  have left := units_pos_iff x.rank
  have right := units_pos_iff y.rank
  simp only [signedUnits, key]
  split <;> split <;> omega

theorem signedUnits_eq_iff : x.signedUnits = y.signedUnits ↔ x.key = y.key := by
  have less := signedUnits_lt_iff (x := x) (y := y)
  have more := signedUnits_lt_iff (x := y) (y := x)
  omega

theorem signedUnits_ofInt (n : Int) : (ofInt n).signedUnits =
    if n < 0 then -(units (rankOfNat n.natAbs) : Int) else units (rankOfNat n.natAbs) := by
  rw [ofInt_eq]
  simp only [signedUnits, decide_eq_true_eq]

theorem natAbs_signedUnits (x : Double) : x.signedUnits.natAbs = units x.rank := by
  simp only [signedUnits]
  split <;> omega

end Double

theorem compare_congr {p q r s : Int} (less : p < q ↔ r < s) (more : q < p ↔ s < r) :
    compare p q = compare r s := by
  rcases lt_trichotomy p q with before | same | after
  · rw [compare_lt_iff_lt.mpr before, compare_lt_iff_lt.mpr (less.mp before)]
  · rw [compare_eq_iff_eq.mpr same, compare_eq_iff_eq.mpr (by omega)]
  · rw [compare_gt_iff_gt.mpr after, compare_gt_iff_gt.mpr (more.mp after)]

namespace Number

variable {a b c : Number}

def units : Number → Int
  | .int n => n * Double.unitsOfOne
  | .float x => x.signedUnits

/-- A double has the exact value of the number. -/
def IsDouble (a : Number) : Prop := ∃ x : Double, x.signedUnits = a.units

theorem isDouble_float (x : Double) : (float x).IsDouble := ⟨x, rfl⟩

theorem units_int (n : Int) : (int n).units =
    if n < 0 then -((n.natAbs * Double.unitsOfOne : Nat) : Int)
    else (n.natAbs * Double.unitsOfOne : Nat) := by
  split
  · next negative =>
      have sign : (n.natAbs : Int) = -n := by omega
      rw [units, Nat.cast_mul, sign, neg_mul, neg_neg]
  · next other =>
      have sign : (n.natAbs : Int) = n := by omega
      rw [units, Nat.cast_mul, sign]

theorem isDouble_int {n : Int} (small : n.natAbs ≤ 2 ^ 53) : (int n).IsDouble := by
  obtain ⟨rank, finite, same⟩ := Double.exists_units_eq small
  refine ⟨⟨decide (n < 0), rank, finite⟩, ?_⟩
  simp only [Double.signedUnits, decide_eq_true_eq, units_int, same]

/-- A number that is a double is not rounded. -/
theorem signedUnits_toDouble (isDouble : a.IsDouble) : a.toDouble.signedUnits = a.units := by
  cases a with
  | float x => rfl
  | int n =>
      obtain ⟨x, same⟩ := isDouble
      have magnitude : Double.units x.rank = n.natAbs * Double.unitsOfOne := by
        rw [← x.natAbs_signedUnits, same, units, Int.natAbs_mul, Int.natAbs_natCast]
      rw [toDouble, Double.signedUnits_ofInt, Double.rankOfNat_of_units x.finite magnitude,
        magnitude, units_int]

/-- Numbers that are doubles are compared by their exact values. -/
theorem cmp_eq_compare_units (first : a.IsDouble) (second : b.IsDouble) :
    a.cmp b = compare a.units b.units := by
  obtain ⟨x, y, isExact, order⟩ | ⟨_, order⟩ := cmp_cases a b
  · have positive : (0 : Int) < Double.unitsOfOne := Int.natCast_pos.mpr Double.unitsOfOne_pos
    rw [order, isExact.left, isExact.right]
    exact compare_congr (Int.mul_lt_mul_right positive).symm (Int.mul_lt_mul_right positive).symm
  · rw [order, ← signedUnits_toDouble first, ← signedUnits_toDouble second]
    exact compare_congr Double.signedUnits_lt_iff.symm Double.signedUnits_lt_iff.symm

theorem cmp_int_float (n : Int) (x : Double) :
    (int n).cmp (.float x) = compare (Double.ofInt n).key x.key := by
  obtain ⟨_, _, isExact, _⟩ | ⟨_, order⟩ := cmp_cases (int n) (.float x)
  · cases isExact.right
  · exact order

/-- An integer is compared with all doubles by value if, and only if, it is itself a double: otherwise
    it is equal to the double that it is rounded to. -/
theorem cmp_float_iff (n : Int) :
    (∀ x : Double, (int n).cmp (.float x) = .eq ↔ x.signedUnits = (int n).units) ↔
      (int n).IsDouble := by
  constructor
  · intro byValue
    refine ⟨.ofInt n, (byValue (.ofInt n)).mp ?_⟩
    rw [cmp_int_float]
    exact Std.ReflCmp.compare_self
  · intro isDouble x
    rw [cmp_eq_compare_units isDouble (isDouble_float x), compare_eq_iff_eq]
    exact eq_comm

theorem key_eq_of_cmp (order : a.cmp b = .eq) : a.key = b.key := by
  have swapped := cmp_swap a b
  rw [order] at swapped
  refine le_antisymm (key_le_of_cmp ?_) (key_le_of_cmp ?_)
  · rw [order]
    decide
  · rw [← swapped]
    decide

theorem cmp_eq_trans (first : a.IsDouble) (last : c.IsDouble) (ab : a.cmp b = .eq)
    (bc : b.cmp c = .eq) : a.cmp c = .eq := by
  have same : a.key = c.key := (key_eq_of_cmp ab).trans (key_eq_of_cmp bc)
  rw [cmp_eq_compare_units first last, compare_eq_iff_eq, ← signedUnits_toDouble first,
    ← signedUnits_toDouble last]
  exact Double.signedUnits_eq_iff.mpr same

end Number

namespace Json

/-- A number stands somewhere in a value. -/
inductive Contains : Json → Number → Prop where
  | here (n : Number) : Contains (.number n) n
  | inside {value part : Json} {n : Number} (isPart : part ∈ value.parts)
      (deeper : Contains part n) : Contains value n

/-- All numbers in a value are doubles, the integers among them included. -/
def Doubles (value : Json) : Prop := ∀ n, value.Contains n → n.IsDouble

variable {a b c : Json}

theorem Doubles.part {value part : Json} (doubles : value.Doubles) (isPart : part ∈ value.parts) :
    part.Doubles := fun n contains => doubles n (.inside isPart contains)

theorem equal_trans (aSorted : a.Sorted) (bSorted : b.Sorted) (cSorted : c.Sorted)
    (aDoubles : a.Doubles) (cDoubles : c.Doubles) (ab : a.equal b = true) (bc : b.equal c = true) :
    a.equal c = true := by
  induction a using nested_induction generalizing b c with
  | step value ih =>
      rw [equal_iff aSorted bSorted] at ab
      rw [equal_iff bSorted cSorted] at bc
      rw [equal_iff aSorted cSorted]
      cases ab with
      | null =>
          cases bc
          exact .null
      | bool value =>
          cases bc
          exact .bool value
      | number first =>
          cases bc with
          | number second =>
              exact .number (Number.cmp_eq_trans (aDoubles _ (.here _)) (cDoubles _ (.here _))
                first second)
      | string value =>
          cases bc
          exact .string value
      | array first =>
          cases bc with
          | array second =>
              refine .array (forall₂_trans (fun x isX y isY z isZ xy yz => ?_) first second)
              exact ih x isX (aSorted.item x isX) (bSorted.item y isY) (cSorted.item z isZ)
                (aDoubles.part isX) (cDoubles.part isZ) xy yz
      | object first =>
          cases bc with
          | object second =>
              refine .object (forall₂_trans (fun x isX y isY z isZ xy yz => ?_) first second)
              refine ⟨xy.1.trans yz.1, ?_⟩
              exact ih x.2 (mem_parts_of_mem isX) (aSorted.member x isX) (bSorted.member y isY)
                (cSorted.member z isZ) (aDoubles.part (mem_parts_of_mem isX))
                (cDoubles.part (mem_parts_of_mem isZ)) xy.2 yz.2

/-- Values whose integers are doubles are equal by value: equality is transitive, and an integer is
    equal to the doubles of its own value only. Integers up to `2 ^ 53` are doubles. -/
theorem equal_by_value (aSorted : a.Sorted) (bSorted : b.Sorted) (cSorted : c.Sorted)
    (aDoubles : a.Doubles) (cDoubles : c.Doubles) (n : Int) :
    (a.equal b = true → b.equal c = true → a.equal c = true) ∧
      ((∀ x : Double, (Number.int n).cmp (.float x) = .eq ↔ x.signedUnits = (Number.int n).units) ↔
        (Number.int n).IsDouble) ∧
      (n.natAbs ≤ 2 ^ 53 → (Number.int n).IsDouble) :=
  ⟨equal_trans aSorted bSorted cSorted aDoubles cDoubles, Number.cmp_float_iff n,
    Number.isDouble_int⟩

/-- The value `[-9007199254740992, 3]`. -/
def smallIntegers : Json := .array [.int (-9007199254740992), .int 3]

/-- The value `[-9007199254740992.0, 3.0]`. -/
def sameDoubles : Json :=
  .array [.number (.float (.ofInt (-9007199254740992))), .number (.float (.ofInt 3))]

theorem equal_by_value_small :
    smallIntegers.Sorted ∧ sameDoubles.Sorted ∧ smallIntegers.Doubles ∧
      smallIntegers.equal sameDoubles = true ∧ sameDoubles.equal smallIntegers = true ∧
      smallIntegers.equal smallIntegers = true ∧ (Number.int (-9007199254740992)).IsDouble := by
  have integersSorted : smallIntegers.Sorted := by
    simp [smallIntegers, Sorted, SortedItems, int]
  have doublesSorted : sameDoubles.Sorted := by
    simp [sameDoubles, Sorted, SortedItems]
  have doubles : smallIntegers.Doubles := by
    intro n contains
    cases contains with
    | inside isPart deeper =>
        simp only [smallIntegers, parts, List.mem_cons, List.not_mem_nil, or_false] at isPart
        obtain rfl | rfl := isPart
        · cases deeper with
          | here => exact Number.isDouble_int (by decide)
          | inside isPart => cases isPart
        · cases deeper with
          | here => exact Number.isDouble_int (by decide)
          | inside isPart => cases isPart
  have forth : smallIntegers.equal sameDoubles = true := by decide +kernel
  have back : sameDoubles.equal smallIntegers = true := by decide +kernel
  obtain ⟨trans, _, small⟩ :=
    equal_by_value integersSorted doublesSorted integersSorted doubles doubles (-9007199254740992)
  exact ⟨integersSorted, doublesSorted, doubles, forth, back, trans forth back, small (by decide)⟩

/-- The integer `2 ^ 53 + 1` is no double. It is equal to the double `2 ^ 53`, and this one to the
    integer `2 ^ 53`, which is another. -/
theorem equal_past_doubles :
    (int 9007199254740993).equal (.number (.float (.ofInt 9007199254740992))) = true ∧
      (Json.number (.float (.ofInt 9007199254740992))).equal (int 9007199254740992) = true ∧
      (int 9007199254740993).equal (int 9007199254740992) = false ∧
      (Number.int 9007199254740993).cmp (.float (.ofInt 9007199254740992)) = .eq ∧
      (Double.ofInt 9007199254740992).signedUnits ≠ (Number.int 9007199254740993).units := by
  decide +kernel

end Json

end JsonQuery

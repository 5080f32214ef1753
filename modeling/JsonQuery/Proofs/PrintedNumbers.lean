import JsonQuery.Parser
import JsonQuery.Proofs.Numerals

/-! # Printed numbers are numerals

The text of a number, without its sign, is a numeral that is read as the magnitude of the number.
-/

namespace JsonQuery

open JsonQuery.Text JsonQuery.Token

/-! ## Decimal digits -/

theorem isDigit_toDigits {n : Nat} {c : Char} (member : c ∈ Nat.toDigits 10 n) :
    isDigit c = true := by
  have digit : c.isDigit = true := Nat.isDigit_of_mem_toDigits (by decide) (by decide) member
  exact digit

theorem eq_zero_of_head?_toDigits {n : Nat} (zero : (Nat.toDigits 10 n).head? = some '0') :
    n = 0 := by
  induction n using Nat.strong_induction_on with
  | _ n ih =>
      rcases Nat.lt_or_ge n 10 with small | large
      · rw [Nat.toDigits_of_lt_base small] at zero
        interval_cases n <;> simp_all [Nat.digitChar]
      · rw [Nat.toDigits_of_base_le (by decide) large,
          List.head?_append_of_ne_nil _ Nat.toDigits_ne_nil] at zero
        have := ih (n / 10) (by omega) zero
        omega

theorem decimalValue_eq (digits : List Char) :
    decimalValue digits = Nat.ofDigitChars 10 digits 0 := by
  simp only [decimalValue, Nat.ofDigitChars_eq_foldl, Nat.mul_comm]
  rfl

@[simp] theorem decimalValue_toDigits (n : Nat) : decimalValue (Nat.toDigits 10 n) = n := by
  rw [decimalValue_eq, Nat.ofDigitChars_ten_toDigits]

/-- The digits of a number are those of no other one, unless more digits stand behind them. -/
theorem toDigits_append_inj {n n' : Nat} {rest rest' : List Char}
    (same : Nat.toDigits 10 n ++ rest = Nat.toDigits 10 n' ++ rest')
    (stop : ∀ c, rest.head? = some c → isDigit c = false)
    (stop' : ∀ c, rest'.head? = some c → isDigit c = false) : n = n' := by
  have digits := congrArg (List.takeWhile isDigit) same
  rw [takeWhile_run (fun _ => isDigit_toDigits) stop,
    takeWhile_run (fun _ => isDigit_toDigits) stop'] at digits
  simpa using congrArg decimalValue digits

theorem decimalValue_append (first second : List Char) :
    decimalValue (first ++ second) =
      decimalValue first * 10 ^ second.length + decimalValue second := by
  rw [decimalValue_eq, decimalValue_eq, decimalValue_eq, Nat.ofDigitChars_append,
    Nat.ofDigitChars_eq_ofDigitChars_zero, Nat.mul_comm]

@[simp] theorem decimalValue_zeros (zeros : Nat) :
    decimalValue (List.replicate zeros '0') = 0 := by
  rw [decimalValue_eq, Nat.ofDigitChars_replicate_zero, Nat.mul_zero]

theorem toNat_of_isDigit {c : Char} (digit : isDigit c = true) : 48 ≤ c.toNat ∧ c.toNat ≤ 57 := by
  simpa [isDigit, Char.le_def, UInt32.le_iff_toNat_le] using digit

theorem digitChar_of_isDigit {c : Char} (digit : isDigit c = true) :
    Nat.digitChar (c.toNat - 48) = c := by
  have bounds := toNat_of_isDigit digit
  apply Char.toNat_inj.mp
  rw [Nat.toNat_digitChar_of_lt_ten (by omega)]
  omega

theorem toDigits_decimalValue {digits : List Char} (nonempty : digits ≠ [])
    (all : ∀ c ∈ digits, isDigit c = true)
    (leading : digits.head? = some '0' → digits.length = 1) :
    Nat.toDigits 10 (decimalValue digits) = digits := by
  induction digits using List.reverseRecOn with
  | nil => exact absurd rfl nonempty
  | append_singleton front c ih =>
      obtain ⟨digits, digit⟩ := List.forall_mem_append.mp all
      have isDigit := digit c List.mem_cons_self
      have bounds := toNat_of_isDigit isDigit
      have small : c.toNat - 48 < 10 := by omega
      have last : Nat.toDigits 10 (c.toNat - 48) = [c] := by
        rw [Nat.toDigits_of_lt_base small, digitChar_of_isDigit isDigit]
      have value : decimalValue (front ++ [c]) = 10 * decimalValue front + (c.toNat - 48) := by
        simp [decimalValue, Nat.mul_comm]
      by_cases single : front = []
      · subst single
        rw [value, show decimalValue [] = 0 from rfl, Nat.mul_zero, Nat.zero_add, last]
        rfl
      · have notZero : front.head? ≠ some '0' := by
          intro zero
          have one := leading (by rw [List.head?_append_of_ne_nil _ single, zero])
          rw [List.length_append, List.length_singleton, Nat.add_eq_right] at one
          exact single (List.length_eq_zero_iff.mp one)
        have same := ih single digits fun zero => absurd zero notZero
        have positive : 0 < decimalValue front := by
          apply Nat.pos_of_ne_zero
          intro zero
          rw [zero] at same
          exact notZero (by rw [← same]; rfl)
        rw [value, ← Nat.toDigits_append_toDigits (by decide) positive small, same, last]
/-! ## Integers -/

def Token.Numeral.ofNat (n : Nat) : Numeral := ⟨Nat.toDigits 10 n, none, none⟩

namespace Token.Numeral

@[simp] theorem chars_ofNat (n : Nat) : (ofNat n).chars = Nat.toDigits 10 n := by
  simp [ofNat, chars, fractionChars, exponentChars]

theorem wellFormed_ofNat (n : Nat) : (ofNat n).WellFormed where
  nonempty := Nat.toDigits_ne_nil
  whole _ := isDigit_toDigits
  leading zero := by
    obtain rfl := eq_zero_of_head?_toDigits zero
    rfl
  fraction := by simp [ofNat]
  exponent := by simp [ofNat]

theorem value?_ofNat {n : Nat} (small : (n : Int) < Number.signedLimit) :
    (ofNat n).value? = some (.int n) := by
  have exactly : (decimalValue (Nat.toDigits 10 n) : Int) < Number.signedLimit := by
    rwa [decimalValue_toDigits]
  change numeralValue? (Nat.toDigits 10 n) none none = _
  rw [numeralValue?, if_pos ⟨rfl, rfl, exactly⟩, decimalValue_toDigits]

/-! ## Doubles -/

def decimal (n : Numeral) : Double.Decimal :=
  ⟨decimalValue (n.whole ++ n.fraction.getD []),
    (n.exponent.map Exponent.value).getD 0 - (n.fraction.getD []).length⟩

theorem value?_of_roundsTo {n : Numeral} (inexact : n.fraction.isSome ∨ n.exponent.isSome)
    {rank : Nat} (nonzero : 0 < rank) (finite : rank < Double.count)
    (h : Double.roundsTo rank n.decimal = true) :
    n.value? = some (.float ⟨false, rank, finite⟩) := by
  have not : ¬(n.fraction.isNone = true ∧ (n.exponent.map Exponent.value).isNone = true ∧
      (decimalValue n.whole : Int) < Number.signedLimit) := by
    rintro ⟨fraction, exponent, _⟩
    simp only [Option.isNone_iff_eq_none, Option.map_eq_none_iff] at fraction exponent
    simp [fraction, exponent] at inexact
  have read := Double.ofDecimal?_of_roundsTo false nonzero finite h
  simp only [decimal] at read
  simp only [value?, numeralValue?, if_neg not, read, Option.map_some]

/-- A numeral spells a decimal when it stands for it, up to zeros at the end of the digits. -/
structure Spells (n : Numeral) (d : Double.Decimal) : Prop where
  wellFormed : n.WellFormed
  inexact : n.fraction.isSome ∨ n.exponent.isSome
  value : ∃ zeros : Nat, n.decimal = ⟨d.digits * 10 ^ zeros, d.exponent - zeros⟩

theorem Spells.of_decimal_eq {n : Numeral} {d : Double.Decimal} (wellFormed : n.WellFormed)
    (inexact : n.fraction.isSome ∨ n.exponent.isSome) (same : n.decimal = d) : n.Spells d :=
  ⟨wellFormed, inexact, 0, by simp [same]⟩

/-- A numeral that spells a decimal between the midpoints of a rank is read as its double. -/
theorem Spells.value? {n : Numeral} {d : Double.Decimal} (spells : n.Spells d) {rank : Nat}
    (nonzero : 0 < rank) (finite : rank < Double.count) (h : Double.roundsTo rank d = true) :
    n.value? = some (.float ⟨false, rank, finite⟩) := by
  obtain ⟨zeros, same⟩ := spells.value
  refine value?_of_roundsTo spells.inexact nonzero finite ?_
  rw [same]
  exact (Double.roundsTo_zeros rank d.digits d.exponent zeros).mpr h

end Token.Numeral

namespace Double

theorem isDigit_zeros {zeros : Nat} {c : Char} (member : c ∈ List.replicate zeros '0') :
    isDigit c = true := by
  rw [List.eq_of_mem_replicate member]
  rfl

/-- A decimal without fraction is filled up with zeros and gets a zero as its fraction. -/
theorem exists_spells_whole {d : Decimal} (nonzero : d.digits ≠ 0) (exponent : 0 ≤ d.exponent) :
    ∃ n : Numeral, n.Spells d ∧
      n.chars = digitsOf d.digits ++ List.replicate d.exponent.toNat '0' ++ ['.', '0'] := by
  refine ⟨⟨digitsOf d.digits ++ List.replicate d.exponent.toNat '0', some ['0'], none⟩, ?_, ?_⟩
  · refine ⟨⟨?_, ?_, ?_, ?_, ?_⟩, Or.inl rfl, d.exponent.toNat + 1, ?_⟩
    · simp [digitsOf]
    · intro c member
      rcases List.mem_append.mp member with digit | zero
      · exact isDigit_toDigits digit
      · exact isDigit_zeros zero
    · intro zero
      simp only [digitsOf] at zero
      rw [List.head?_append_of_ne_nil _ Nat.toDigits_ne_nil] at zero
      exact absurd (eq_zero_of_head?_toDigits zero) nonzero
    · simp [isDigit]
    · simp
    · have fraction : decimalValue ['0'] = 0 := rfl
      have length : ((List.length ['0'] : Nat) : Int) = 1 := rfl
      simp only [Numeral.decimal, Option.getD_some, Option.map_none, Option.getD_none, digitsOf,
        decimalValue_append, decimalValue_toDigits, decimalValue_zeros, List.length_replicate,
        fraction, length, Decimal.mk.injEq]
      constructor
      · simp only [List.length_cons, List.length_nil]
        ring
      · omega
  · simp [Numeral.chars, Numeral.fractionChars, Numeral.exponentChars]

theorem exists_spells_split {d : Decimal} (nonzero : d.digits ≠ 0) (exponent : d.exponent < 0)
    {before : Nat} (some' : 0 < before)
    (isBefore : (before : Int) = d.exponent + (digitsOf d.digits).length) :
    ∃ n : Numeral, n.Spells d ∧
      n.chars = (digitsOf d.digits).take before ++ '.' :: (digitsOf d.digits).drop before := by
  refine ⟨⟨(digitsOf d.digits).take before, some ((digitsOf d.digits).drop before), none⟩, ?_, ?_⟩
  · refine .of_decimal_eq ⟨?_, ?_, ?_, ?_, ?_⟩ (Or.inl rfl) ?_
    · simp only [ne_eq, List.take_eq_nil_iff, not_or]
      exact ⟨by omega, Nat.toDigits_ne_nil⟩
    · intro c member
      exact isDigit_toDigits (List.mem_of_mem_take member)
    · intro zero
      rw [List.head?_take, if_neg (by omega)] at zero
      exact absurd (eq_zero_of_head?_toDigits zero) nonzero
    · intro f same
      obtain rfl := Option.some.inj same
      refine ⟨?_, fun c member => isDigit_toDigits (List.mem_of_mem_drop member)⟩
      simp only [ne_eq, List.drop_eq_nil_iff]
      omega
    · simp
    · have length : (((digitsOf d.digits).drop before).length : Int) = -d.exponent := by
        rw [List.length_drop]
        omega
      simp only [Numeral.decimal, Option.getD_some, List.take_append_drop, Option.map_none,
        Option.getD_none, length]
      simp [digitsOf]
  · simp [Numeral.chars, Numeral.fractionChars, Numeral.exponentChars]

theorem exists_spells_fraction {d : Decimal} {zeros : Nat}
    (isZeros : -(zeros : Int) = d.exponent + (digitsOf d.digits).length) :
    ∃ n : Numeral, n.Spells d ∧
      n.chars = '0' :: '.' :: (List.replicate zeros '0' ++ digitsOf d.digits) := by
  refine ⟨⟨['0'], some (List.replicate zeros '0' ++ digitsOf d.digits), none⟩, ?_, ?_⟩
  · refine .of_decimal_eq ⟨by simp, by simp [isDigit], fun _ => rfl, ?_, ?_⟩ (Or.inl rfl) ?_
    · intro f same
      obtain rfl := Option.some.inj same
      refine ⟨by simp [digitsOf], fun c member => ?_⟩
      rcases List.mem_append.mp member with zero | digit
      · exact isDigit_zeros zero
      · exact isDigit_toDigits digit
    · simp
    · have whole : decimalValue ['0'] = 0 := rfl
      have length : ((List.replicate zeros '0' ++ digitsOf d.digits).length : Int) =
          -d.exponent := by
        rw [List.length_append, List.length_replicate]
        omega
      simp only [Numeral.decimal, Option.getD_some, Option.map_none, Option.getD_none, length,
        decimalValue_append, whole, decimalValue_zeros]
      simp [digitsOf]
  · simp [Numeral.chars, Numeral.fractionChars, Numeral.exponentChars]

/-- The exponent that scientific text shows. -/
def exponentOfInt (leading : Int) : Exponent :=
  ⟨some (if leading < 0 then '-' else '+'), digitsOf leading.natAbs⟩

theorem wellFormed_exponentOfInt (leading : Int) : (exponentOfInt leading).WellFormed where
  nonempty := Nat.toDigits_ne_nil
  digits _ := isDigit_toDigits
  sign c same := by
    simp only [exponentOfInt, Option.mem_def, Option.some.injEq] at same
    subst same
    split <;> simp

theorem value_exponentOfInt (leading : Int) : (exponentOfInt leading).value = leading := by
  rcases lt_or_ge leading 0 with negative | positive
  · simp only [Exponent.value, exponentOfInt, if_pos negative, digitsOf, decimalValue_toDigits,
      if_true]
    omega
  · have plus : ¬ some '+' = some '-' := by decide
    simp only [Exponent.value, exponentOfInt, if_neg (not_lt.mpr positive), digitsOf,
      decimalValue_toDigits, if_neg plus]
    omega

/-- One digit before the point, or no point at all, and an exponent. -/
theorem exists_spells_scientific {d : Decimal} (nonzero : d.digits ≠ 0) {leading : Int}
    (isLeading : leading = d.exponent + (digitsOf d.digits).length - 1) :
    ∃ n : Numeral, n.Spells d ∧ n.chars = scientific (digitsOf d.digits) leading := by
  have digits : ∀ c ∈ digitsOf d.digits, isDigit c = true := fun c => isDigit_toDigits
  have value : decimalValue (digitsOf d.digits) = d.digits := decimalValue_toDigits d.digits
  have nonempty : digitsOf d.digits ≠ [] := Nat.toDigits_ne_nil
  have exponentWellFormed : ∀ e ∈ some (exponentOfInt leading), e.WellFormed := by
    intro e same
    obtain rfl := Option.some.inj same
    exact wellFormed_exponentOfInt leading
  cases spelled : digitsOf d.digits with
  | nil => exact absurd spelled nonempty
  | cons first more =>
      rw [spelled] at digits value isLeading
      have firstDigit : ∀ c ∈ [first], isDigit c = true := by
        intro c member
        exact digits c (List.mem_singleton.mp member ▸ List.mem_cons_self)
      cases more with
      | nil =>
          refine ⟨⟨[first], none, some (exponentOfInt leading)⟩, ?_, rfl⟩
          refine .of_decimal_eq ⟨by simp, firstDigit, fun _ => rfl, by simp, exponentWellFormed⟩
            (Or.inr rfl) ?_
          simp only [Numeral.decimal, Option.getD_none, List.append_nil, Option.map_some,
            Option.getD_some, value_exponentOfInt, value, isLeading]
          simp
      | cons next more =>
          refine ⟨⟨[first], some (next :: more), some (exponentOfInt leading)⟩, ?_, rfl⟩
          refine .of_decimal_eq ⟨by simp, firstDigit, fun _ => rfl, ?_, exponentWellFormed⟩
            (Or.inr rfl) ?_
          · intro f same
            obtain rfl := Option.some.inj same
            exact ⟨by simp, fun c member => digits c (List.mem_cons_of_mem first member)⟩
          · simp only [Numeral.decimal, Option.getD_some, List.singleton_append, Option.map_some,
              Option.getD_some, value_exponentOfInt, value, isLeading]
            obtain ⟨digits, exponent⟩ := d
            simp only [List.length_cons, Decimal.mk.injEq, true_and]
            omega

theorem exists_spells {d : Decimal} (nonzero : d.digits ≠ 0) :
    ∃ n : Numeral, n.Spells d ∧ n.chars = d.chars := by
  have length : 0 < (digitsOf d.digits).length := Nat.length_toDigits_pos
  simp only [Decimal.chars, positional]
  split
  · split
    · next whole => exact exists_spells_whole nonzero whole
    · next fraction =>
        split
        · next split' => exact exists_spells_split nonzero (by omega) (by omega) (by omega)
        · next small => exact exists_spells_fraction (by omega)
  · exact exists_spells_scientific nonzero rfl

theorem exists_numeral (x : Double) :
    ∃ n : Numeral, n.WellFormed ∧ n.value? = some (.float ⟨false, x.rank, x.finite⟩) ∧
      x.chars = (if x.negative then '-' :: n.chars else n.chars) := by
  rcases Nat.eq_zero_or_pos x.rank with zero | some'
  · refine ⟨⟨['0'], some ['0'], none⟩, ⟨by simp, by simp [isDigit], fun _ => rfl, ?_, by simp⟩, ?_, ?_⟩
    · simp [isDigit]
    · simp only [zero]
      rfl
    · simp [chars, zero, Numeral.chars, Numeral.fractionChars, Numeral.exponentChars]
  · have reads := roundsTo_trim 17 (roundsTo_shortest x.rank)
    obtain ⟨n, spells, same⟩ := exists_spells (digits_ne_zero some' reads)
    refine ⟨n, spells.wellFormed, spells.value? some' x.finite reads, ?_⟩
    simp only [chars, if_neg some'.ne', same]

end Double

/-! ## Numbers -/

/-- Numbers that a query can hold: integers of less than 64 bits, and doubles. -/
def Number.IsLiteral : Number → Prop
  | .int value => -Number.signedLimit < value ∧ value < Number.signedLimit
  | .float _ => True

/-- The text of a number is a numeral, with a minus sign in front if the number is negative. -/
theorem Number.exists_numeral {x : Number} (literal : x.IsLiteral) :
    ∃ (n : Numeral) (magnitude : Number), n.WellFormed ∧ n.value? = some magnitude ∧
      (x.text.toList = n.chars ∧ magnitude = x ∨
        x.text.toList = '-' :: n.chars ∧ Parser.negated magnitude = x) := by
  cases x with
  | int value =>
      have small : (value.natAbs : Int) < signedLimit := by
        obtain ⟨_, _⟩ := literal
        omega
      refine ⟨.ofNat value.natAbs, .int value.natAbs, Numeral.wellFormed_ofNat _,
        Numeral.value?_ofNat small, ?_⟩
      rcases lt_or_ge value 0 with negative | positive
      · right
        have least : (value.natAbs : Int) ≠ leastInt := by simp only [leastInt]; omega
        have opposite : -(value.natAbs : Int) = value := by omega
        simp only [text, intText, if_pos negative, String.toList_ofList, Numeral.chars_ofNat,
          Parser.negated, if_neg least, if_pos small, opposite, true_and]
      · left
        have same : (value.natAbs : Int) = value := by omega
        simp only [text, intText, if_neg (not_lt.mpr positive), String.toList_ofList,
          Numeral.chars_ofNat, same, true_and]
  | float value =>
      obtain ⟨n, wellFormed, read, chars⟩ := Double.exists_numeral value
      refine ⟨n, _, wellFormed, read, ?_⟩
      obtain ⟨negative, rank, finite⟩ := value
      cases negative with
      | true => exact Or.inr ⟨by simpa [text, Double.text] using chars, rfl⟩
      | false => exact Or.inl ⟨by simpa [text, Double.text] using chars, rfl⟩

end JsonQuery

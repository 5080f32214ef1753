import Mathlib.Data.List.TakeWhile
import JsonQuery.Token.Lexer
import JsonQuery.Proofs.ReadBack

/-! # Reading numerals

A numeral is put together from a whole part, a fraction and an exponent. Reading takes it apart
again, whatever stands behind it, as long as that does not go on with the numeral.
-/

namespace JsonQuery.Token

open JsonQuery.Text

/-! ## Runs of characters -/

section Runs

variable {α : Type} {p : α → Bool} {run rest : List α}

theorem takeWhile_run (all : ∀ c ∈ run, p c = true) (stop : ∀ c, rest.head? = some c → p c = false) :
    (run ++ rest).takeWhile p = run := by
  rw [List.takeWhile_append_of_pos all]
  cases rest with
  | nil => exact List.append_nil run
  | cons c rest => rw [List.takeWhile_cons_of_neg (by simp [stop c rfl]), List.append_nil]

theorem dropWhile_run (all : ∀ c ∈ run, p c = true) (stop : ∀ c, rest.head? = some c → p c = false) :
    (run ++ rest).dropWhile p = rest := by
  rw [List.dropWhile_append_of_pos all]
  cases rest with
  | nil => rfl
  | cons c rest => rw [List.dropWhile_cons_of_neg (by simp [stop c rfl])]

end Runs

/-! ## The parts of a numeral -/

/-- An exponent as it is written with a small mark. -/
def Exponent.chars (e : Exponent) : List Char := 'e' :: (e.sign.toList ++ e.digits)

/-- An exponent as it is written with either of the two marks. -/
def Exponent.spelled (mark : Char) (e : Exponent) : List Char := mark :: (e.sign.toList ++ e.digits)

/-- An exponent has digits, and its sign is one of the two signs. -/
structure Exponent.WellFormed (e : Exponent) : Prop where
  nonempty : e.digits ≠ []
  digits : ∀ c ∈ e.digits, isDigit c = true
  sign : ∀ c ∈ e.sign, c = '+' ∨ c = '-'

structure Numeral where
  whole : List Char
  fraction : Option (List Char)
  exponent : Option Exponent

namespace Numeral

def fractionChars (n : Numeral) : List Char := (n.fraction.map ('.' :: ·)).getD []

def exponentChars (n : Numeral) : List Char := (n.exponent.map Exponent.chars).getD []

def chars (n : Numeral) : List Char := n.whole ++ (n.fractionChars ++ n.exponentChars)

/-- The exponent as it is written with a given mark. -/
def exponentSpelled (mark : Char) (n : Numeral) : List Char :=
  (n.exponent.map (Exponent.spelled mark)).getD []

/-- The numeral as it is written with a given mark. -/
def spelled (mark : Char) (n : Numeral) : List Char :=
  n.whole ++ (n.fractionChars ++ n.exponentSpelled mark)

/-- The parts consist of digits, and the whole part has no zero in front. -/
structure WellFormed (n : Numeral) : Prop where
  nonempty : n.whole ≠ []
  whole : ∀ c ∈ n.whole, isDigit c = true
  leading : n.whole.head? = some '0' → n.whole.length = 1
  fraction : ∀ f ∈ n.fraction, f ≠ [] ∧ ∀ c ∈ f, isDigit c = true
  exponent : ∀ e ∈ n.exponent, e.WellFormed

/-- The number that the parts stand for. -/
def value? (n : Numeral) : Option Number :=
  numeralValue? n.whole n.fraction (n.exponent.map Exponent.value)

end Numeral

/-- What stands behind a numeral does not go on with it. -/
def EndsNumeral (rest : List Char) : Prop :=
  ∀ c, rest.head? = some c → isDigit c = false ∧ c ≠ '.' ∧ c ≠ 'e' ∧ c ≠ 'E'

theorem EndsNumeral.not_digit {rest : List Char} (ends : EndsNumeral rest) (c : Char)
    (first : rest.head? = some c) : isDigit c = false := (ends c first).1

/-! ## Taking the parts apart -/

theorem exponentOf_none {rest : List Char} (ends : EndsNumeral rest) : exponentOf rest = none := by
  cases rest with
  | nil => rfl
  | cons c rest =>
      obtain ⟨_, _, small, capital⟩ := ends c rfl
      simp only [exponentOf]
      exact if_neg (not_or.mpr ⟨small, capital⟩)

section Mark

variable {mark : Char} (isMark : mark = 'e' ∨ mark = 'E')
include isMark

theorem exponentOf_spelled {e : Exponent} (wf : e.WellFormed) {rest : List Char}
    (ends : EndsNumeral rest) : exponentOf (e.spelled mark ++ rest) = some e := by
  obtain ⟨sign, digits⟩ := e
  have run : (digits ++ rest).takeWhile isDigit = digits :=
    takeWhile_run wf.digits ends.not_digit
  cases sign with
  | some c =>
      rcases wf.sign c rfl with rfl | rfl
      · simp [Exponent.spelled, exponentOf, isMark, run]
      · simp [Exponent.spelled, exponentOf, isMark, run]
  | none =>
      have nonempty : digits ≠ [] := wf.nonempty
      obtain ⟨c, more, rfl⟩ := List.exists_cons_of_ne_nil nonempty
      have digit : isDigit c = true := wf.digits c List.mem_cons_self
      have plus : c ≠ '+' := by rintro rfl; exact absurd digit (by decide)
      have minus : c ≠ '-' := by rintro rfl; exact absurd digit (by decide)
      have unsigned : Exponent.spelled mark ⟨none, c :: more⟩ ++ rest = mark :: c :: (more ++ rest) :=
        rfl
      rw [List.cons_append] at run
      rw [unsigned, exponentOf, if_pos isMark, run]
      · intro _ same
        exact plus (List.cons.inj same).1
      · intro _ same
        exact minus (List.cons.inj same).1

theorem exponentOf_exponentSpelled {n : Numeral} (wf : n.WellFormed) {rest : List Char}
    (ends : EndsNumeral rest) : exponentOf (n.exponentSpelled mark ++ rest) = n.exponent := by
  cases same : n.exponent with
  | none => simpa [Numeral.exponentSpelled, same] using exponentOf_none ends
  | some e =>
      simpa [Numeral.exponentSpelled, same] using
        exponentOf_spelled isMark (wf.exponent e same) ends

theorem head?_exponentSpelled {n : Numeral} {rest : List Char} (ends : EndsNumeral rest) (c : Char)
    (first : (n.exponentSpelled mark ++ rest).head? = some c) : isDigit c = false ∧ c ≠ '.' := by
  cases same : n.exponent with
  | none =>
      simp only [Numeral.exponentSpelled, same, Option.map_none, Option.getD_none,
        List.nil_append] at first
      exact ⟨(ends c first).1, (ends c first).2.1⟩
  | some e =>
      simp only [Numeral.exponentSpelled, same, Option.map_some, Option.getD_some, Exponent.spelled,
        List.cons_append, List.head?_cons, Option.some.injEq] at first
      subst first
      rcases isMark with rfl | rfl <;> decide

omit isMark in
theorem splitFraction_of_ne {rest : List Char} (stop : ∀ c, rest.head? = some c → c ≠ '.') :
    splitFraction rest = (none, rest) := by
  unfold splitFraction
  split
  · exact absurd rfl (stop '.' rfl)
  · rfl

theorem splitFraction_fractionChars {n : Numeral} (wf : n.WellFormed) {rest : List Char}
    (ends : EndsNumeral rest) :
    splitFraction (n.fractionChars ++ (n.exponentSpelled mark ++ rest)) =
      (n.fraction, n.exponentSpelled mark ++ rest) := by
  have stop := head?_exponentSpelled isMark (n := n) ends
  cases same : n.fraction with
  | none =>
      simp only [Numeral.fractionChars, same, Option.map_none, Option.getD_none, List.nil_append]
      exact splitFraction_of_ne fun c first => (stop c first).2
  | some f =>
      have digits := (wf.fraction f same).2
      simp only [Numeral.fractionChars, same, Option.map_some, Option.getD_some, List.cons_append,
        splitFraction]
      rw [takeWhile_run digits fun c first => (stop c first).1,
        dropWhile_run digits fun c first => (stop c first).1]

theorem head?_fractionChars {n : Numeral} {rest : List Char} (ends : EndsNumeral rest) (c : Char)
    (first : (n.fractionChars ++ (n.exponentSpelled mark ++ rest)).head? = some c) :
    isDigit c = false := by
  cases same : n.fraction with
  | none =>
      simp only [Numeral.fractionChars, same, Option.map_none, Option.getD_none,
        List.nil_append] at first
      exact (head?_exponentSpelled isMark ends c first).1
  | some f =>
      simp only [Numeral.fractionChars, same, Option.map_some, Option.getD_some, List.cons_append,
        List.head?_cons, Option.some.injEq] at first
      subst first
      decide

omit isMark in
theorem length_spelled (mark : Char) (n : Numeral) :
    (n.spelled mark).length = n.whole.length + (n.fraction.map (·.length + 1)).getD 0 +
      (n.exponent.map Exponent.size).getD 0 := by
  obtain ⟨whole, fraction, exponent⟩ := n
  have fractionLength : (Numeral.fractionChars ⟨whole, fraction, exponent⟩).length =
      (fraction.map (·.length + 1)).getD 0 := by cases fraction <;> simp [Numeral.fractionChars]
  have exponentLength : (Numeral.exponentSpelled mark ⟨whole, fraction, exponent⟩).length =
      (exponent.map Exponent.size).getD 0 := by
    cases exponent with
    | none => rfl
    | some e =>
        simp only [Numeral.exponentSpelled, Option.map_some, Option.getD_some, Exponent.spelled,
          Exponent.size, List.length_cons, List.length_append]
        omega
  simp only [Numeral.spelled, List.length_append, fractionLength, exponentLength]
  omega

theorem numeral_spelled {n : Numeral} (wf : n.WellFormed) {number : Number}
    (value : n.value? = some number) {rest : List Char} (ends : EndsNumeral rest) :
    numeral (n.spelled mark ++ rest) =
      .ok ⟨.number, (n.spelled mark).length, some (.number number)⟩ := by
  have whole : (n.spelled mark ++ rest).takeWhile isDigit = n.whole := by
    simp only [Numeral.spelled, List.append_assoc]
    exact takeWhile_run wf.whole (head?_fractionChars isMark ends)
  have behind : (n.spelled mark ++ rest).dropWhile isDigit =
      n.fractionChars ++ (n.exponentSpelled mark ++ rest) := by
    simp only [Numeral.spelled, List.append_assoc]
    exact dropWhile_run wf.whole (head?_fractionChars isMark ends)
  have noZero : ¬(n.whole.head? = some '0' ∧ 1 < n.whole.length) := by
    rintro ⟨zero, long⟩
    have := wf.leading zero
    omega
  have someFraction : n.fraction ≠ some [] := fun none => (wf.fraction [] none).1 rfl
  have someExponent : n.exponent.any (·.digits.isEmpty) = false := by
    cases same : n.exponent with
    | none => rfl
    | some e => simpa using (wf.exponent e same).nonempty
  simp only [numeral, whole, behind, if_neg noZero, splitFraction_fractionChars isMark wf ends,
    if_neg someFraction, exponentOf_exponentSpelled isMark wf ends, someExponent, Bool.false_eq_true,
    if_false]
  rw [show numeralValue? n.whole n.fraction (n.exponent.map Exponent.value) = some number from value,
    length_spelled]

end Mark

/-- A numeral with a small mark, as numbers are printed. -/
theorem numeral_chars {n : Numeral} (wf : n.WellFormed) {number : Number}
    (value : n.value? = some number) {rest : List Char} (ends : EndsNumeral rest) :
    numeral (n.chars ++ rest) = .ok ⟨.number, n.chars.length, some (.number number)⟩ :=
  numeral_spelled (.inl rfl) wf value ends

/-- Digits alone are read as a number, or refused if they are too large for a double. -/
theorem numeral_digits {digits rest : List Char} (all : ∀ c ∈ digits, isDigit c = true)
    (leading : digits.head? = some '0' → digits.length = 1) (ends : EndsNumeral rest) :
    numeral (digits ++ rest) =
      match numeralValue? digits none none with
      | some number => .ok ⟨.number, digits.length, some (.number number)⟩
      | none => .error (misread .numberTooLarge digits.length) := by
  have noZero : ¬(digits.head? = some '0' ∧ 1 < digits.length) := by
    rintro ⟨zero, long⟩
    have := leading zero
    omega
  have noFraction : splitFraction rest = (none, rest) :=
    splitFraction_of_ne fun c first => (ends c first).2.1
  cases value : numeralValue? digits none none <;>
    simp [numeral, takeWhile_run all ends.not_digit, dropWhile_run all ends.not_digit, noZero,
      noFraction, exponentOf_none ends, value]

/-! ## What has been read -/

theorem of_splitFraction {text rest : List Char} {fraction : Option (List Char)}
    (split : splitFraction text = (fraction, rest)) :
    text = (fraction.map ('.' :: ·)).getD [] ++ rest ∧
      ∀ f ∈ fraction, ∀ c ∈ f, isDigit c = true := by
  unfold splitFraction at split
  split at split
  · cases split
    refine ⟨by simp, fun f same c member => ?_⟩
    cases same
    exact List.mem_takeWhile_imp member
  · cases split
    exact ⟨rfl, by simp⟩

theorem of_exponentOf {text : List Char} {e : Exponent} (read : exponentOf text = some e) :
    ∃ mark after, (mark = 'e' ∨ mark = 'E') ∧ text = e.spelled mark ++ after ∧
      (∀ c ∈ e.digits, isDigit c = true) ∧ ∀ c ∈ e.sign, c = '+' ∨ c = '-' := by
  unfold exponentOf at read
  split at read
  · next mark rest =>
      split at read
      · next isMark =>
          have digits (rest : List Char) : ∀ c ∈ rest.takeWhile isDigit, isDigit c = true :=
            fun _ member => List.mem_takeWhile_imp member
          have spelled (sign : Option Char) (rest : List Char) :
              mark :: (sign.toList ++ rest) =
                Exponent.spelled mark ⟨sign, rest.takeWhile isDigit⟩ ++ rest.dropWhile isDigit := by
            simp [Exponent.spelled]
          split at read
          · cases read
            exact ⟨mark, _, isMark, spelled (some '+') _, digits _, by simp⟩
          · cases read
            exact ⟨mark, _, isMark, spelled (some '-') _, digits _, by simp⟩
          · cases read
            exact ⟨mark, _, isMark, spelled none _, digits _, by simp⟩
      · cases read
  · cases read

/-- Whatever is read as a numeral is one, and is followed by what it does not go on with. -/
theorem exists_spelled {c : Char} {rest : List Char} {piece : Piece} (digit : isDigit c = true)
    (ok : numeral (c :: rest) = .ok piece) :
    ∃ (n : Numeral) (mark : Char) (number : Number) (after : List Char), n.WellFormed ∧
      (mark = 'e' ∨ mark = 'E') ∧ n.value? = some number ∧ c :: rest = n.spelled mark ++ after ∧
        piece = ⟨.number, (n.spelled mark).length, some (.number number)⟩ := by
  simp only [numeral] at ok
  split at ok
  · cases ok
  next noZeros =>
  split at ok
  · cases ok
  next someFraction =>
  split at ok
  · cases ok
  next someDigits =>
  split at ok
  · next number value =>
      cases split : splitFraction ((c :: rest).dropWhile isDigit) with
      | mk fraction behind =>
      rw [split] at someFraction someDigits value ok
      obtain ⟨same, fractionDigits⟩ := of_splitFraction split
      let n : Numeral := ⟨(c :: rest).takeWhile isDigit, fraction, exponentOf behind⟩
      have spelled : ∃ mark after, (mark = 'e' ∨ mark = 'E') ∧
          behind = n.exponentSpelled mark ++ after ∧ ∀ e ∈ n.exponent, e.WellFormed := by
        cases isExponent : exponentOf behind with
        | none =>
            exact ⟨'e', behind, .inl rfl, by simp [n, Numeral.exponentSpelled, isExponent],
              by simp [n, isExponent]⟩
        | some e =>
            obtain ⟨mark, after, isMark, same, digits, sign⟩ := of_exponentOf isExponent
            have spelled : n.exponentSpelled mark = e.spelled mark := by
              simp only [n, Numeral.exponentSpelled, isExponent, Option.map_some, Option.getD_some]
            refine ⟨mark, after, isMark, spelled ▸ same, ?_⟩
            intro e' isSome
            obtain rfl : e = e' := Option.some.inj (isExponent.symm.trans isSome)
            exact ⟨by simpa [isExponent] using someDigits, digits, sign⟩
      obtain ⟨mark, after, isMark, sameBehind, wfExponent⟩ := spelled
      have wf : n.WellFormed := {
        nonempty := by simp [n, digit]
        whole := fun _ member => List.mem_takeWhile_imp member
        leading := by
          intro zero
          have : 0 < n.whole.length := List.length_pos_iff.mpr (by simp [n, digit])
          have : ¬1 < n.whole.length := fun long => noZeros ⟨zero, long⟩
          omega
        fraction := by
          intro f isSome
          refine ⟨?_, fractionDigits f isSome⟩
          rintro rfl
          exact someFraction isSome
        exponent := wfExponent }
      refine ⟨n, mark, number, after, wf, isMark, value, ?_, ?_⟩
      · rw [Numeral.spelled, List.append_assoc, List.append_assoc, ← sameBehind, Numeral.fractionChars,
          ← same, List.takeWhile_append_dropWhile]
      · cases ok
        rw [length_spelled]
  · cases ok

end JsonQuery.Token

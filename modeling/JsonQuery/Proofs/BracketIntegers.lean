import JsonQuery.Proofs.CompiledQueries
import JsonQuery.Proofs.QueryEquality

/-! # Integers in brackets

An index and the bounds of a slice are held by the lexer as numbers, read a second time by the
parser as 64-bit integers, given their sign, and checked for safety when the selector is made. Each
of these steps has a limit of its own; together they accept the safe integers, in every place alike,
and each of them refuses the other integers for their range. So both readings are judged by one
condition: either it holds and there is a result, or it does not and there is such a failure.
-/

namespace JsonQuery

open Token JsonQuery.Parser Text

/-- An integer as it is written: digits with no zero in front, and perhaps a minus sign. -/
structure WrittenInteger where
  negative : Bool
  digits : List Char
  nonempty : digits ≠ []
  isDigit : ∀ c ∈ digits, Text.isDigit c = true
  leading : digits.head? = some '0' → digits.length = 1

namespace WrittenInteger

def one : WrittenInteger :=
  ⟨false, ['1'], by simp, List.forall_mem_singleton.mpr rfl, fun _ => rfl⟩

def chars (i : WrittenInteger) : List Char := if i.negative then '-' :: i.digits else i.digits

def magnitude (i : WrittenInteger) : Nat := decimalValue i.digits

def value (i : WrittenInteger) : Int := if i.negative then -(i.magnitude : Int) else i.magnitude

/-- The integer can be told from its neighbours when it is held as a double, and it is not written
    as a negative zero. -/
structure Accepted (i : WrittenInteger) : Prop where
  low : -(2 ^ 53 - 1) ≤ i.value
  high : i.value ≤ 2 ^ 53 - 1
  notNegativeZero : i.chars ≠ ['-', '0']

end WrittenInteger

/-- An index or a slice as it is written. Each bound of a slice may be left out; the stride is behind
    a second colon, which may itself be left out. -/
inductive WrittenSelector where
  | index (position : WrittenInteger)
  | slice (start stop : Option WrittenInteger) (stride : Option (Option WrittenInteger))

namespace WrittenSelector

def boundChars (bound : Option WrittenInteger) : List Char := (bound.map (·.chars)).getD []

def strideChars (stride : Option (Option WrittenInteger)) : List Char :=
  (stride.map (':' :: boundChars ·)).getD []

def chars : WrittenSelector → List Char
  | index position => position.chars
  | slice start stop stride => boundChars start ++ ':' :: (boundChars stop ++ strideChars stride)

def text (s : WrittenSelector) : String := String.ofList s.chars

def term : WrittenSelector → Term
  | index position => .index position.value
  | slice start stop stride =>
      .slice (start.map (·.value)) (stop.map (·.value)) (stride.join.map (·.value))

def bounds : WrittenSelector → List (Option WrittenInteger)
  | index position => [some position]
  | slice start stop stride => [start, stop, stride.join]

/-- The same integers, with a stride of one for a slice that has none. -/
def normal : WrittenSelector → WrittenSelector
  | index position => index position
  | slice start stop stride => slice start stop (some (some (stride.join.getD .one)))

/-- All integers of the selector are accepted. -/
def Accepted (s : WrittenSelector) : Prop := ∀ bound ∈ s.bounds, ∀ i ∈ bound, i.Accepted

end WrittenSelector

/-! ## Limits -/

namespace WrittenInteger

/-- The parser can read the integer, whether or not it is safe. -/
structure Readable (i : WrittenInteger) : Prop where
  small : (i.magnitude : Int) < Number.signedLimit
  notNegativeZero : i.chars ≠ ['-', '0']

variable {i : WrittenInteger}

theorem Readable.accepted_iff (readable : i.Readable) :
    i.Accepted ↔ isSafeInteger i.value = true := by
  constructor
  · intro accepted
    exact Bool.and_eq_true_iff.mpr ⟨decide_eq_true accepted.low, decide_eq_true accepted.high⟩
  · intro safe
    obtain ⟨low, high⟩ := abs_le_of_isSafeInteger safe
    exact ⟨low, high, readable.notNegativeZero⟩

theorem Accepted.readable (accepted : i.Accepted) : i.Readable where
  small := by
    obtain ⟨low, high, _⟩ := accepted
    simp only [Number.signedLimit]
    cases signed : i.negative <;> simp [value, signed] at low high <;> omega
  notNegativeZero := accepted.notNegativeZero

theorem chars_eq_negativeZero_iff (i : WrittenInteger) :
    i.chars = ['-', '0'] ↔ i.negative = true ∧ i.digits = ['0'] := by
  unfold chars
  split
  · next signed => simp [signed]
  · next unsigned =>
      refine ⟨fun same => ?_, fun negative => absurd negative.1 unsigned⟩
      have minus : Text.isDigit '-' = true := i.isDigit '-' (by simp [same])
      exact absurd minus (by decide)

theorem exists_first (i : WrittenInteger) (rest : List Char) :
    ∃ c, (i.digits ++ rest).head? = some c ∧ Text.isDigit c = true := by
  obtain ⟨c, more, split⟩ := List.exists_cons_of_ne_nil i.nonempty
  exact ⟨c, by simp [split], i.isDigit c (by simp [split])⟩

end WrittenInteger

/-! ## Tokens -/

inductive BoundTokens : Option WrittenInteger → List Token → Prop where
  | absent : BoundTokens none []
  | positive {i : WrittenInteger} {t : Token} (unsigned : i.negative = false)
      (kind : t.kind = .number) (lexeme : t.lexeme.toList = i.digits) : BoundTokens (some i) [t]
  | negative {i : WrittenInteger} {minus t : Token} (signed : i.negative = true)
      (sign : minus.kind = .minus) (kind : t.kind = .number) (lexeme : t.lexeme.toList = i.digits) :
      BoundTokens (some i) [minus, t]

/-- The tokens of a stride, its colon included. -/
inductive StrideTokens : Option (Option WrittenInteger) → List Token → Prop where
  | absent : StrideTokens none []
  | present {step : Option WrittenInteger} {colon : Token} {ts : List Token}
      (colonKind : colon.kind = .colon) (bound : BoundTokens step ts) :
      StrideTokens (some step) (colon :: ts)

inductive SelectorTokens : WrittenSelector → List Token → Prop where
  | index {position : WrittenInteger} {ts : List Token} (bound : BoundTokens (some position) ts) :
      SelectorTokens (.index position) ts
  | slice {start stop : Option WrittenInteger} {stride : Option (Option WrittenInteger)}
      {first second third : List Token} {colon : Token} (startBound : BoundTokens start first)
      (colonKind : colon.kind = .colon) (stopBound : BoundTokens stop second)
      (isStride : StrideTokens stride third) :
      SelectorTokens (.slice start stop stride) (first ++ colon :: (second ++ third))

/-! ## Reading the numbers -/

/-- The text spells tokens with the property, unless a number in it is too large for a double, and
    then the condition does not hold. -/
def MaySpell (condition : Prop) (follow : List Char → Prop) (text : List Char)
    (property : List Token → Prop) : Prop :=
  ∀ offset rest, follow rest →
    (∃ ts, property ts ∧ tokensFrom none offset (text ++ rest) =
      (tokensFrom none (offset + text.length) rest).map (ts ++ ·)) ∨
    (¬condition ∧ ∃ m, tokensFrom none offset (text ++ rest) = .error m ∧ m.fault.kind = .range)

section MaySpell

variable {condition : Prop} {follow follow' : List Char → Prop} {text text' : List Char}
  {property property' : List Token → Prop}

theorem MaySpell.of_spells (spells : Spells follow text property) :
    MaySpell condition follow text property :=
  fun offset rest follows => .inl (spells offset rest follows)

theorem MaySpell.mono {weaker : Prop} (may : MaySpell weaker follow text property)
    (needed : condition → weaker) (implies : ∀ ts, property ts → property' ts) :
    MaySpell condition follow text property' := by
  intro offset rest follows
  rcases may offset rest follows with ⟨ts, holds, same⟩ | ⟨fails, error⟩
  · exact .inl ⟨ts, implies ts holds, same⟩
  · exact .inr ⟨fun holds => fails (needed holds), error⟩

theorem MaySpell.append (first : MaySpell condition follow text property)
    (second : MaySpell condition follow' text' property')
    (allowed : ∀ rest, follow' rest → follow (text' ++ rest)) :
    MaySpell condition follow' (text ++ text') fun ts =>
      ∃ us vs, ts = us ++ vs ∧ property us ∧ property' vs := by
  intro offset rest follows
  rw [List.append_assoc, List.length_append, ← Nat.add_assoc]
  rcases first offset (text' ++ rest) (allowed rest follows) with ⟨us, holds, same⟩ | failure
  · rw [same]
    rcases second (offset + text.length) rest follows with
      ⟨vs, holds', same'⟩ | ⟨fails, m, error, kind⟩
    · refine .inl ⟨us ++ vs, ⟨us, vs, rfl, holds, holds'⟩, ?_⟩
      rw [same']
      cases tokensFrom none (offset + text.length + text'.length) rest <;> simp [Except.map]
    · exact .inr ⟨fails, m, by rw [error]; rfl, kind⟩
  · exact .inr failure

theorem MaySpell.sign {c : Char} {kind : Kind} (isSign : sign? c = some kind)
    (behind : MaySpell condition follow text property) :
    MaySpell condition follow ([c] ++ text) fun ts =>
      ∃ t us, ts = t :: us ∧ t.kind = kind ∧ property us := by
  refine ((MaySpell.of_spells (spells_sign isSign anything)).append behind
    (fun _ _ => trivial)).mono id ?_
  rintro _ ⟨_, us, rfl, ⟨span, rfl⟩, holds⟩
  exact ⟨_, us, rfl, rfl, holds⟩

end MaySpell

/-- The lexer holds a safe integer, and refuses none but those that are too large. -/
theorem maySpell_digits (i : WrittenInteger) :
    MaySpell i.Accepted delimiter i.digits fun ts =>
      ∃ t, ts = [t] ∧ t.kind = .number ∧ t.lexeme.toList = i.digits := by
  intro offset rest follows
  cases value : numeralValue? i.digits none none with
  | some number =>
      have wf : Numeral.WellFormed ⟨i.digits, none, none⟩ :=
        ⟨i.nonempty, i.isDigit, i.leading, by simp, by simp⟩
      have chars : Numeral.chars ⟨i.digits, none, none⟩ = i.digits := by
        simp [Numeral.chars, Numeral.fractionChars, Numeral.exponentChars]
      have isValue : Numeral.value? ⟨i.digits, none, none⟩ = some number := value
      have spells := spells_numeral wf isValue
      rw [chars] at spells
      obtain ⟨_, ⟨span, rfl⟩, same⟩ := spells offset rest follows
      exact .inl ⟨_, ⟨_, rfl, rfl, String.toList_ofList⟩, same⟩
  | none =>
      -- No double is as large. Such an integer does not fit into 63 bits either.
      obtain ⟨c, more, split⟩ := List.exists_cons_of_ne_nil i.nonempty
      have digit : Text.isDigit c = true := i.isDigit c (by simp [split])
      have read := numeral_digits i.isDigit i.leading (delimiter_endsNumeral follows)
      rw [value, split, List.cons_append, ← pieceAt_digit digit none] at read
      refine .inr ⟨fun accepted => ?_, (misread .numberTooLarge (c :: more).length).shift offset, ?_,
        rfl⟩
      · have small : (decimalValue i.digits : Int) < Number.signedLimit := accepted.readable.small
        rw [numeralValue?, if_pos ⟨rfl, rfl, small⟩] at value
        cases value
      · rw [split, List.cons_append]
        exact tokensFrom_misread (not_isBlank_of_isDigit digit) read offset

theorem maySpell_bound {condition : Prop} {bound : Option WrittenInteger}
    (needed : condition → ∀ i ∈ bound, i.Accepted) :
    MaySpell condition delimiter (WrittenSelector.boundChars bound) (BoundTokens bound) := by
  cases bound with
  | none => exact .of_spells (.nil .absent)
  | some i =>
      have accepts : condition → i.Accepted := fun holds => needed holds i rfl
      have digits := (maySpell_digits i).mono accepts fun _ => id
      cases signed : i.negative with
      | false =>
          have chars : WrittenSelector.boundChars (some i) = i.digits := by
            simp [WrittenSelector.boundChars, WrittenInteger.chars, signed]
          rw [chars]
          refine digits.mono id ?_
          rintro _ ⟨t, rfl, kind, lexeme⟩
          exact .positive signed kind lexeme
      | true =>
          have chars : WrittenSelector.boundChars (some i) = ['-'] ++ i.digits := by
            simp [WrittenSelector.boundChars, WrittenInteger.chars, signed]
          rw [chars]
          refine ((MaySpell.of_spells spells_minus).append digits
            (fun rest _ => i.exists_first rest)).mono id ?_
          rintro _ ⟨_, _, rfl, ⟨span, rfl⟩, t, rfl, kind, lexeme⟩
          exact .negative signed rfl kind lexeme

theorem maySpell_stride {condition : Prop} {stride : Option (Option WrittenInteger)}
    (needed : condition → ∀ i ∈ stride.join, i.Accepted) :
    MaySpell condition delimiter (WrittenSelector.strideChars stride) (StrideTokens stride) := by
  cases stride with
  | none => exact .of_spells (.nil .absent)
  | some step =>
      have colon : sign? ':' = some .colon := rfl
      refine ((maySpell_bound needed).sign colon).mono id ?_
      rintro _ ⟨colon, us, rfl, kind, bound⟩
      exact .present kind bound

theorem delimiter_strideChars (stride : Option (Option WrittenInteger)) {rest : List Char}
    (follows : delimiter rest) : delimiter (WrittenSelector.strideChars stride ++ rest) := by
  cases stride with
  | none => exact follows
  | some step => exact delimiter_cons (by decide) _

theorem maySpell_selector (s : WrittenSelector) :
    MaySpell s.Accepted delimiter s.chars (SelectorTokens s) := by
  have needed : ∀ bound ∈ s.bounds, s.Accepted → ∀ i ∈ bound, i.Accepted :=
    fun bound isBound accepted => accepted bound isBound
  cases s with
  | index position =>
      simp only [WrittenSelector.bounds, List.forall_mem_cons] at needed
      exact (maySpell_bound needed.1).mono id fun _ => .index
  | slice start stop stride =>
      simp only [WrittenSelector.bounds, List.forall_mem_cons] at needed
      obtain ⟨needStart, needStop, needStride, -⟩ := needed
      have colon : sign? ':' = some .colon := rfl
      have behind := ((maySpell_bound needStop).append (maySpell_stride needStride)
        fun rest follows => delimiter_strideChars stride follows).sign colon
      refine ((maySpell_bound needStart).append behind fun _ _ => delimiter_cons (by decide) _).mono
        id ?_
      rintro _ ⟨first, _, rfl, startBound, colon, _, rfl, kind, second, third, rfl, stopBound,
        isStride⟩
      exact .slice startBound kind stopBound isStride

/-! ## Reading the tokens -/

/-- The outcome is the value if the condition holds, and otherwise a failure for a range. -/
def Ranged {α : Type} (condition : Prop) (value : α) : Except Failure α → Prop
  | .ok found => condition ∧ found = value
  | .error failure => ¬condition ∧ failure.fault.kind = .range

section Ranged

variable {α β : Type} {condition weaker : Prop} {value : α} {value' : β}
  {outcome : Except Failure α}

theorem Ranged.congr (ranged : Ranged weaker value outcome) (same : condition ↔ weaker) :
    Ranged condition value outcome := by
  rwa [show condition = weaker from propext same]

theorem Ranged.bind {next : α → Except Failure β} (ranged : Ranged weaker value outcome)
    (needed : condition → weaker) (more : weaker → Ranged condition value' (next value)) :
    Ranged condition value' (outcome >>= next) := by
  cases outcome with
  | ok found =>
      obtain ⟨holds, rfl⟩ := ranged
      exact more holds
  | error failure => exact ⟨fun holds => ranged.1 (needed holds), ranged.2⟩

theorem Ranged.map (f : α → β) (ranged : Ranged condition value outcome) :
    Ranged condition (f value) (outcome.map f) := by
  cases outcome with
  | ok found => exact ⟨ranged.1, congrArg f ranged.2⟩
  | error failure => exact ranged

end Ranged

section Integers

variable {i : WrittenInteger} {t : Token} {rest : Tokens}

theorem ranged_magnitude (lexeme : t.lexeme.toList = i.digits) :
    Ranged i.Readable i.magnitude (magnitude i.negative t) := by
  have digits : i.digits.all Text.isDigit = true := List.all_eq_true.mpr i.isDigit
  have zero : (i.negative && t.lexeme == "0") = true ↔ i.chars = ['-', '0'] := by
    rw [Bool.and_eq_true, beq_iff_eq, ← String.toList_inj, lexeme, i.chars_eq_negativeZero_iff]
    rfl
  simp only [magnitude, lexeme, digits, Bool.not_true, Bool.false_eq_true, if_false]
  split
  · next isZero => exact ⟨fun readable => readable.notNegativeZero (zero.mp isZero), rfl⟩
  next notZero =>
  split
  · next large =>
      refine ⟨fun readable => ?_, rfl⟩
      rcases large with empty | large
      · exact i.nonempty (List.isEmpty_iff.mp empty)
      · exact absurd readable.small (not_lt.mpr large)
  · next small =>
      have readable : i.Readable :=
        ⟨not_le.mp fun large => small (.inr large), fun isZero => notZero (zero.mpr isZero)⟩
      exact ⟨readable, rfl⟩

theorem ranged_signedInteger (rest : Tokens) (kind : t.kind = .number)
    (lexeme : t.lexeme.toList = i.digits) :
    Ranged i.Readable (some i.value, rest) (signedInteger i.negative (t :: rest)) := by
  have read := ranged_magnitude lexeme
  simp only [signedInteger, currentKind_cons, kind, if_true, current_cons]
  cases outcome : magnitude i.negative t with
  | error failure => rwa [outcome] at read
  | ok found =>
      rw [outcome] at read
      obtain ⟨readable, rfl⟩ := read
      exact ⟨readable, rfl⟩

theorem ranged_integer? {bound : Option WrittenInteger} {ts : List Token}
    (tokens : BoundTokens bound ts) (ends : EndsBound rest) :
    Ranged (∀ i ∈ bound, i.Readable) (bound.map (·.value), rest) (integer? (ts ++ rest)) := by
  cases tokens with
  | absent =>
      obtain ⟨minus, number⟩ := ends
      simp only [List.nil_append, integer?]
      exact ⟨by simp, rfl⟩
  | @positive i t unsigned kind lexeme =>
      have read := ranged_signedInteger rest kind lexeme
      rw [unsigned] at read
      simp only [List.cons_append, List.nil_append, integer?, currentKind_cons, kind]
      exact read.congr (by simp)
  | @negative i minus t signed sign kind lexeme =>
      have read := ranged_signedInteger rest kind lexeme
      rw [signed] at read
      simp only [List.cons_append, List.nil_append, integer?, currentKind_cons, sign, List.tail_cons]
      exact read.congr (by simp)

end Integers

section Selectors

theorem ranged_index (t : Token) (position : Int) :
    Ranged (isSafeInteger position = true) (.index position) (checked t (Term.index? position)) := by
  unfold Term.index?
  split
  · next safe => exact ⟨safe, rfl⟩
  · next unsafeIndex => exact ⟨unsafeIndex, rfl⟩

theorem ranged_slice (t : Token) (start stop step : Option Int) :
    Ranged (∀ bound ∈ [start, stop, step], ∀ value ∈ bound, isSafeInteger value = true)
      (.slice start stop step) (checked t (Term.slice? start stop step)) := by
  rw [← firstUnsafe_eq_none_iff, Term.slice?]
  split
  · next safe => exact ⟨safe, rfl⟩
  · next value found => exact ⟨by simp [found], rfl⟩

variable {s : WrittenSelector} {ts rest : Tokens}

theorem accepted_iff_of_readable {bounds : List (Option WrittenInteger)}
    (readable : ∀ bound ∈ bounds, ∀ i ∈ bound, i.Readable) :
    (∀ bound ∈ bounds, ∀ i ∈ bound, i.Accepted) ↔
      ∀ bound ∈ bounds.map (·.map (·.value)), ∀ value ∈ bound, isSafeInteger value = true := by
  simp only [List.forall_mem_map, Option.forall_mem_map]
  exact forall₂_congr fun bound isBound => forall₂_congr fun i isSome =>
    (readable bound isBound i isSome).accepted_iff

theorem ranged_stride? {stride : Option (Option WrittenInteger)} {third : List Token}
    (tokens : StrideTokens stride third) (ends : EndsSelector rest) :
    Ranged (∀ i ∈ stride.join, i.Readable) (stride.join.map (·.value), rest)
      (stride? (third ++ rest)) := by
  cases tokens with
  | absent =>
      rw [List.nil_append, stride?, if_neg ends.not_colon]
      exact ⟨by simp, rfl⟩
  | present colonKind bound =>
      rw [List.cons_append, stride?, if_pos (by simp [colonKind])]
      exact ranged_integer? bound ends.endsBound

theorem StrideTokens.endsBound {stride : Option (Option WrittenInteger)} {third : List Token}
    (tokens : StrideTokens stride third) (ends : EndsSelector rest) : EndsBound (third ++ rest) := by
  cases tokens with
  | absent => exact ends.endsBound
  | present colonKind bound => exact endsBound_colon colonKind _

theorem ranged_indexOrSlice (tokens : SelectorTokens s ts) (ends : EndsSelector rest) :
    Ranged s.Accepted (s.term, rest) (indexOrSlice (ts ++ rest)) := by
  have needed : ∀ bound ∈ s.bounds, s.Accepted → ∀ i ∈ bound, i.Readable :=
    fun bound isBound accepted i isSome => (accepted bound isBound i isSome).readable
  have safe : (∀ bound ∈ s.bounds, ∀ i ∈ bound, i.Readable) → (s.Accepted ↔
      ∀ bound ∈ s.bounds.map (·.map (·.value)), ∀ value ∈ bound, isSafeInteger value = true) :=
    accepted_iff_of_readable
  unfold indexOrSlice
  cases tokens with
  | @index position _ bound =>
      simp only [WrittenSelector.bounds, List.forall_mem_cons] at needed
      refine (ranged_integer? bound ends.endsBound).bind needed.1 fun readable => ?_
      simp only [if_neg ends.not_colon, Option.map_some]
      have same : (WrittenSelector.index position).Accepted ↔
          isSafeInteger position.value = true := by
        rw [safe (by simpa [WrittenSelector.bounds] using readable)]
        simp [WrittenSelector.bounds]
      exact (ranged_index _ _).bind same.mp fun safe => ⟨same.mpr safe, rfl⟩
  | @slice start stop stride first second third colon startBound colonKind stopBound isStride =>
      simp only [WrittenSelector.bounds, List.forall_mem_cons] at needed
      obtain ⟨needStart, needStop, needStride, -⟩ := needed
      rw [List.append_assoc, List.cons_append, List.append_assoc]
      -- Any bound may turn out not to be readable. Once all of them have been read, they are safe
      -- exactly if they are accepted.
      refine (ranged_integer? startBound (endsBound_colon colonKind _)).bind needStart
        fun readStart => ?_
      simp only [currentKind_cons, colonKind, if_true, List.tail_cons]
      refine (ranged_integer? stopBound (isStride.endsBound ends)).bind needStop fun readStop => ?_
      refine (ranged_stride? isStride ends).bind needStride fun readStride => ?_
      simp only [if_neg ends.not_colon]
      have same := safe (by
        simp only [WrittenSelector.bounds, List.forall_mem_cons]
        exact ⟨readStart, readStop, readStride, by simp⟩)
      exact (ranged_slice _ _ _ _).bind same.mp fun safe => ⟨same.mpr safe, rfl⟩

theorem SelectorTokens.first (tokens : SelectorTokens s ts) (rest : Tokens) :
    currentKind (ts ++ rest) = .number ∨ currentKind (ts ++ rest) = .minus ∨
      currentKind (ts ++ rest) = .colon := by
  cases tokens with
  | index bound =>
      cases bound with
      | positive unsigned kind lexeme => exact .inl kind
      | negative signed sign kind lexeme => exact .inr (.inl sign)
  | slice startBound colonKind stopBound isStride =>
      cases startBound with
      | absent => exact .inr (.inr colonKind)
      | positive unsigned kind lexeme => exact .inl kind
      | negative signed sign kind lexeme => exact .inr (.inl sign)

theorem ranged_selector (tokens : SelectorTokens s ts) (ends : EndsSelector rest) (fuel : Nat) :
    Ranged s.Accepted (s.term, rest) (selector (fuel + 1) (ts ++ rest)) := by
  have same : selector (fuel + 1) (ts ++ rest) = indexOrSlice (ts ++ rest) := by
    rcases tokens.first rest with kind | kind | kind <;> simp [selector, kind]
  rw [same]
  exact ranged_indexOrSlice tokens ends

variable {opening closing : Token}

theorem ranged_bracketed (tokens : SelectorTokens s ts) (closingKind : closing.kind = .rightBracket)
    (fuel : Nat) :
    Ranged s.Accepted (s.term, rest)
      (bracketed (fuel + 3) (opening :: (ts ++ closing :: rest))) := by
  have notClosed : currentKind (ts ++ closing :: rest) ≠ .rightBracket := by
    rcases tokens.first (closing :: rest) with kind | kind | kind <;> simp [kind]
  have selectors : Ranged s.Accepted ([s.term], rest)
      (selectors (fuel + 2) opening .emptyBrackets (ts ++ closing :: rest)) := by
    rw [Parser.selectors, if_neg notClosed]
    have ends : EndsSelector (closing :: rest) := .inr closingKind
    refine (ranged_selector tokens ends fuel).bind id fun accepted => ?_
    simp only [currentKind_cons, closingKind]
    exact ⟨accepted, rfl⟩
  rw [bracketed]
  exact selectors.bind id fun accepted => ⟨accepted, rfl⟩

/-- The tokens of a query with integers in one of its brackets. -/
inductive QueryTokens (front back : List Term) (s : WrittenSelector) : List Token → Prop where
  | intro {root opening closing : Token} {us ts vs : List Token} (rootKind : root.kind = .root)
      (isFront : Derives .segments us front) (openingKind : opening.kind = .leftBracket)
      (selector : SelectorTokens s ts) (closingKind : closing.kind = .rightBracket)
      (isBack : Derives .segments vs back) :
      QueryTokens front back s (root :: (us ++ opening :: (ts ++ closing :: vs)))

theorem ranged_query {front back : List Term} (tokens : QueryTokens front back s ts) {eof : Token}
    (eofKind : eof.kind = .eof) :
    Ranged s.Accepted (front ++ s.term :: back) (query (ts ++ [eof])) := by
  cases tokens with
  | @intro root opening closing us ts vs rootKind isFront openingKind selector closingKind isBack =>
      obtain ⟨rest, isRest⟩ : ∃ rest, rest = opening :: (ts ++ closing :: (vs ++ [eof])) := ⟨_, rfl⟩
      have shape : root :: (us ++ opening :: (ts ++ closing :: vs)) ++ [eof] =
          root :: (us ++ rest) := by
        simp [isRest]
      have steps : budget (root :: (us ++ rest)) =
          5 * us.length + 5 * ts.length + 5 * vs.length + 25 := by
        simp [isRest, budget]
        omega
      -- The segments in front are read first. Enough fuel is left for the bracket and those behind it.
      obtain ⟨left, enough, read⟩ := isFront.segments_append rest
        (show 5 * us.length + 1 ≤ budget (root :: (us ++ rest)) by omega)
      obtain ⟨fuel, rfl⟩ : ∃ fuel, left = fuel + 4 := ⟨left - 4, by omega⟩
      have ends : ¬StartsSegment [eof] := by simp [StartsSegment, eofKind]
      have readBack := isBack.reads (fuel + 3) [eof] ends (by omega)
      have bracket : Ranged s.Accepted (s.term :: back, [eof]) (segments (fuel + 4) rest) := by
        rw [isRest, segments]
        simp only [currentKind_cons, openingKind]
        refine (ranged_bracketed selector closingKind fuel).bind id fun accepted => ?_
        simp only [readBack]
        exact ⟨accepted, rfl⟩
      have links := bracket.map fun found => (front ++ found.1, found.2)
      rw [← read] at links
      rw [shape, query, if_pos (show currentKind (root :: (us ++ rest)) = .root from rootKind),
        List.tail_cons]
      refine links.bind id fun accepted => ?_
      simp only [currentKind_cons, eofKind, if_true]
      exact ⟨accepted, rfl⟩

end Selectors

/-! ## Printing the integers back -/

namespace WrittenInteger

theorem toDigits_magnitude (i : WrittenInteger) : Nat.toDigits 10 i.magnitude = i.digits :=
  toDigits_decimalValue i.nonempty i.isDigit i.leading

theorem toList_intText {i : WrittenInteger} (notNegativeZero : i.chars ≠ ['-', '0']) :
    (intText i.value).toList = i.chars := by
  cases signed : i.negative with
  | false =>
      have value : i.value = i.magnitude := by simp [WrittenInteger.value, signed]
      have positive : ¬(i.magnitude : Int) < 0 := by omega
      rw [value, intText, if_neg positive, String.toList_ofList, Int.natAbs_natCast,
        toDigits_magnitude]
      simp [chars, signed]
  | true =>
      have nonzero : i.magnitude ≠ 0 := by
        intro zero
        have digits := i.toDigits_magnitude
        rw [zero] at digits
        exact notNegativeZero ((i.chars_eq_negativeZero_iff).mpr ⟨signed, digits.symm⟩)
      have value : i.value = -(i.magnitude : Int) := by simp [WrittenInteger.value, signed]
      have negative : -(i.magnitude : Int) < 0 := by omega
      rw [value, intText, if_pos negative, String.toList_ofList, Int.natAbs_neg, Int.natAbs_natCast,
        toDigits_magnitude]
      simp [chars, signed]

end WrittenInteger

theorem toList_boundText {bound : Option WrittenInteger} (accepted : ∀ i ∈ bound, i.Accepted) :
    (boundText (bound.map (·.value))).toList = WrittenSelector.boundChars bound := by
  cases bound with
  | none => rfl
  | some i => exact WrittenInteger.toList_intText (accepted i rfl).notNegativeZero

theorem WrittenSelector.text_term {s : WrittenSelector} (accepted : s.Accepted) :
    s.term.text = "[" ++ s.normal.text ++ "]" := by
  cases s with
  | index position =>
      have shown := WrittenInteger.toList_intText
        (accepted (some position) List.mem_cons_self position rfl).notNegativeZero
      apply String.toList_injective
      simp [term, Term.text, shown, text, normal, chars]
  | slice start stop stride =>
      simp only [Accepted, bounds, List.forall_mem_cons] at accepted
      obtain ⟨acceptStart, acceptStop, acceptStride, -⟩ := accepted
      have step : (intText ((stride.join.map (·.value)).getD 1)).toList =
          boundChars (some (stride.join.getD .one)) := by
        cases isStep : stride.join with
        | none => rfl
        | some i => exact WrittenInteger.toList_intText (acceptStride i isStep).notNegativeZero
      apply String.toList_injective
      simp [term, Term.text, sliceText, toList_boundText acceptStart, toList_boundText acceptStop,
        step, text, normal, chars, strideChars]

/-! ## Whole queries -/

/-- The text of a query with the selector in brackets of its own between other segments. -/
def WrittenSelector.between (front back : List Term) (s : WrittenSelector) : String :=
  "$" ++ Term.texts front ++ "[" ++ s.text ++ "]" ++ Term.texts back

theorem toList_between (front back : List Term) (s : WrittenSelector) :
    (s.between front back).toList = ['$'] ++ ((Term.texts front).toList ++
      (['['] ++ (s.chars ++ ([']'] ++ (Term.texts back).toList)))) := by
  simp [WrittenSelector.between, WrittenSelector.text]

section Queries

variable {front back : List Term} (wfFront : Term.LinksWellFormed front)
  (wfBack : Term.LinksWellFormed back) (s : WrittenSelector)
include wfFront wfBack

theorem maySpell_between : MaySpell s.Accepted anything (s.between front back).toList
    (QueryTokens (Term.normals front) (Term.normals back) s) := by
  have dollar : sign? '$' = some .root := rfl
  have opens : sign? '[' = some .leftBracket := rfl
  have closes : sign? ']' = some .rightBracket := rfl
  have isFront : MaySpell s.Accepted anything _ _ := .of_spells (Term.prints_links front wfFront)
  have isBack : MaySpell s.Accepted anything _ _ := .of_spells (Term.prints_links back wfBack)
  have bracket := ((maySpell_selector s).append (isBack.sign closes)
    fun _ _ => delimiter_cons (by decide) _).sign opens
  have whole := (isFront.append bracket fun _ _ => trivial).sign dollar
  rw [toList_between]
  refine whole.mono id ?_
  rintro _ ⟨root, _, rfl, rootKind, us, _, rfl, isFront, opening, _, rfl, openingKind, ts, _, rfl,
    selector, closing, vs, rfl, closingKind, isBack⟩
  exact .intro rootKind isFront openingKind selector closingKind isBack

theorem ofQuery_between :
    (∃ ts eof, Token.ofQuery (s.between front back) = .ok (ts ++ [eof]) ∧ eof.kind = .eof ∧
      QueryTokens (Term.normals front) (Term.normals back) s ts) ∨
    (¬s.Accepted ∧ ∃ d, Token.ofQuery (s.between front back) = .error d ∧ d.kind = .range) := by
  have first : ∀ c, (s.between front back).toList.head? = some c → isBlank c = false := by
    rw [toList_between]
    rintro c ⟨⟩
    rfl
  have last : ∀ c, (s.between front back).toList.getLast? = some c → isBlank c = false := by
    intro c isLast
    have split : (s.between front back).toList =
        ('$' :: ((Term.texts front).toList ++ '[' :: s.chars)) ++
          ([']'] ++ (Term.texts back).toList) := by
      simp [toList_between]
    rw [split, List.getLast?_append_of_ne_nil _ (by simp), List.getLast?_append,
      Option.or_eq_some_iff] at isLast
    rcases isLast with isLast | ⟨-, ⟨⟩⟩
    · obtain rfl := getLast?_texts wfBack isLast
      rfl
    · rfl
  have whole := Token.ofChars_eq_tokensFrom first last
  rcases maySpell_between wfFront wfBack s 0 [] trivial with
    ⟨ts, tokens, same⟩ | ⟨fails, m, error, kind⟩
  · rw [List.append_nil, tokensFrom_nil] at same
    exact .inl ⟨ts, _, Token.ofQuery_eq_ok_iff.mpr (whole.trans same), rfl, tokens⟩
  · rw [List.append_nil] at error
    refine .inr ⟨fails, m.diagnostic (s.between front back), ?_, kind⟩
    rw [Token.ofQuery, whole, error]
    rfl

theorem compile_between :
    (s.Accepted ∧ Query.compile (s.between front back) =
      .ok ⟨Term.normals front ++ s.term :: Term.normals back, s.between front back⟩) ∨
    (¬s.Accepted ∧ ∃ d, Query.compile (s.between front back) = .error d ∧ d.kind = .range) := by
  rcases ofQuery_between wfFront wfBack s with
    ⟨ts, eof, read, eofKind, tokens⟩ | ⟨fails, d, error, kind⟩
  · have terminated : terminated (s.between front back) (ts ++ [eof]) = ts ++ [eof] := by
      simp [Parser.terminated, eofKind]
    have ranged := ranged_query tokens eofKind
    simp only [Query.compile, read, Query.ofTokens, terminated]
    cases outcome : query (ts ++ [eof]) with
    | ok links =>
        rw [outcome] at ranged
        obtain ⟨accepted, rfl⟩ := ranged
        exact .inl ⟨accepted, rfl⟩
    | error failure =>
        rw [outcome] at ranged
        exact .inr ⟨ranged.1, _, rfl, ranged.2⟩
  · refine .inr ⟨fails, d, ?_, kind⟩
    rw [Query.compile, error]

/-- A query with integers in brackets is compiled exactly if all of them are safe and none is written
    as a negative zero. It then holds these integers, and is printed with them as they are written.
    Otherwise it is refused for their range, however long they are. -/
theorem Query.integers_in_brackets :
    ((∃ q, Query.compile (s.between front back) = .ok q) ↔ s.Accepted) ∧
      (s.Accepted → ∃ q, Query.compile (s.between front back) = .ok q ∧
        q.links = Term.normals front ++ s.term :: Term.normals back ∧
          q.text = s.normal.between front back) ∧
      (¬s.Accepted → ∃ d, Query.compile (s.between front back) = .error d ∧ d.kind = .range) := by
  rcases compile_between wfFront wfBack s with ⟨accepted, ok⟩ | ⟨fails, d, error, kind⟩
  · rw [ok]
    refine ⟨⟨fun _ => accepted, fun _ => ⟨_, rfl⟩⟩, fun _ => ⟨_, rfl, rfl, ?_⟩,
      fun fails => absurd accepted fails⟩
    simp only [Query.text, Query.root, Expr.text, Term.text, Term.texts_append, Term.texts_normals,
      Term.texts, WrittenSelector.text_term accepted, WrittenSelector.between, String.append_assoc]
  · rw [error]
    refine ⟨⟨?_, fun accepted => absurd accepted fails⟩, fun accepted => absurd accepted fails,
      fun _ => ⟨d, rfl, kind⟩⟩
    rintro ⟨q, ⟨⟩⟩

end Queries

/-- The least safe integer as a start, and the first integer beyond the greatest one as an index. -/
theorem Query.integers_in_brackets_limits :
    (∃ q, Query.compile "$['a'][-9007199254740991::2]..[*]" = .ok q ∧
      q.links = [.name "a", .slice (some (-9007199254740991)) none (some 2),
        .descendant (.ofTerm .wildcard)] ∧
      q.text = "$['a'][-9007199254740991::2]..[*]") ∧
    ∃ d, Query.compile "$['a'][9007199254740992]..[*]" = .error d ∧ d.kind = .range := by
  let least : WrittenInteger :=
    ⟨true, "9007199254740991".toList, by simp, List.all_eq_true.mp rfl, nofun⟩
  let two : WrittenInteger := ⟨false, ['2'], by simp, List.all_eq_true.mp rfl, nofun⟩
  let beyond : WrittenInteger :=
    ⟨false, "9007199254740992".toList, by simp, List.all_eq_true.mp rfl, nofun⟩
  have wfFront : Term.LinksWellFormed [.name "a"] := by
    simp [Term.LinksWellFormed, Term.WellFormed, Term.isLink, Term.isSelector]
  have wfBack : Term.LinksWellFormed [.descendant (.ofTerm .wildcard)] := by
    simp [Term.LinksWellFormed, Term.WellFormed, Expr.HeldWellFormed, Expr.ofTerm, Term.isLink,
      Term.isSelector]
  have accepted : (WrittenSelector.slice (some least) none (some (some two))).Accepted := by
    have leastValue : least.value = -9007199254740991 := by decide +kernel
    have twoValue : two.value = 2 := by decide +kernel
    have isLeast : least.Accepted := ⟨by simp [leastValue], by simp [leastValue], by decide +kernel⟩
    have isTwo : two.Accepted := ⟨by simp [twoValue], by simp [twoValue], by decide +kernel⟩
    simpa [WrittenSelector.Accepted, WrittenSelector.bounds] using ⟨isLeast, isTwo⟩
  have refused : ¬(WrittenSelector.index beyond).Accepted := by
    intro accepted
    have high := (accepted _ List.mem_cons_self beyond rfl).high
    rw [show beyond.value = 9007199254740992 by decide +kernel] at high
    norm_num at high
  obtain ⟨-, compiles, -⟩ := Query.integers_in_brackets wfFront wfBack
    (.slice (some least) none (some (some two)))
  obtain ⟨-, -, fails⟩ := Query.integers_in_brackets wfFront wfBack (.index beyond)
  obtain ⟨q, ok, links, text⟩ := compiles accepted
  have source : WrittenSelector.between [.name "a"] [.descendant (.ofTerm .wildcard)]
      (.slice (some least) none (some (some two))) = "$['a'][-9007199254740991::2]..[*]" := by
    decide +kernel
  have source' : WrittenSelector.between [.name "a"] [.descendant (.ofTerm .wildcard)]
      (.index beyond) = "$['a'][9007199254740992]..[*]" := by
    decide +kernel
  rw [source'] at fails
  exact ⟨⟨q, source ▸ ok, links.trans rfl, text.trans source⟩, fails refused⟩

end JsonQuery

import Mathlib.Tactic
import JsonQuery.Parser
import JsonQuery.Proofs.Grammar

/-! # The parser finds what the grammar derives

Every phrase of the grammar is read by its function, which gives back the tokens behind the phrase
and stops there if they do not go on with it. The fuel of a function is bounded by the number of
tokens of its phrase, so that the budget of a whole query is enough.
-/

namespace JsonQuery.Parser

attribute [grind =] segments bracketed selectors selector expression operators operand arguments
  moreArguments

/-! ## The tables of the grammar and those of the parser -/

theorem denotes_text (t : Token) : Denotes t t.text := by
  rw [Token.text]
  split
  · next literal => exact .decoded literal
  · next undecoded => exact .verbatim undecoded

theorem Denotes.text_eq {t : Token} {text : String} (denotes : Denotes t text) : t.text = text := by
  cases denotes with
  | decoded literal => rw [Token.text, literal]
  | verbatim undecoded =>
      rw [Token.text]
      split
      · next literal => exact absurd literal (undecoded _)
      · rfl

/-- The parser counts the ranks of operators from one, the grammar their levels from zero. -/
theorem operatorAt_iff {level : Nat} {kind : Token.Kind} {operator : Operator} :
    OperatorAt level kind operator ↔
      operator? kind = some operator ∧ rank operator = level + 1 := by
  constructor
  · rintro (_ | _)
    all_goals exact ⟨rfl, rfl⟩
  · rintro ⟨isOperator, isRank⟩
    cases kind <;> cases isOperator <;> cases isRank <;> constructor

theorem opposite_negated (value : Number) : Opposite value (negated value) := by
  cases value with
  | int value =>
      rw [negated]
      split
      · next least =>
          subst least
          exact .least
      · next notLeast =>
          split
          · next small => exact .int notLeast small
          · next large => exact .large (not_lt.mp large)
  | float value => exact .float value

theorem Opposite.negated_eq {value opposite : Number} (isOpposite : Opposite value opposite) :
    negated value = opposite := by
  cases isOpposite with
  | int notLeast small => rw [negated, if_neg notLeast, if_pos small]
  | least => rfl
  | @large value large =>
      have notLeast : value ≠ Number.leastInt := by
        rintro rfl
        exact absurd large (by decide)
      rw [negated, if_neg notLeast, if_neg (not_lt.mpr large)]
  | float value => rfl

theorem bracketTerm_of_many {terms : List Term} (many : 2 ≤ terms.length) :
    bracketTerm terms = .child (terms.map .ofTerm) := by
  match terms, many with
  | first :: second :: rest, _ => rfl

theorem Derives.selectors_ne_nil {ts : List Token} {terms : List Term}
    (selectors : Derives .selectors ts terms) : terms ≠ [] := by
  cases selectors <;> exact List.cons_ne_nil _ _

theorem Derives.enclosed {opening closing : Token} {ts : List Token} {terms : List Term}
    (openingKind : opening.kind = .leftBracket) (selectors : Derives .selectors ts terms)
    (closingKind : closing.kind = .rightBracket) :
    Derives .bracket (opening :: (ts ++ [closing])) (bracketTerm terms) := by
  match terms, selectors with
  | [], selectors => exact absurd rfl selectors.selectors_ne_nil
  | [term], selectors => exact .alone openingKind selectors closingKind
  | first :: second :: rest, selectors =>
      exact .several openingKind selectors (Nat.le_add_left 2 _) closingKind

/-! ## What stands behind a phrase -/

@[simp] theorem current_cons (t : Token) (ts : Tokens) : current (t :: ts) = t := rfl

@[simp] theorem currentKind_cons (t : Token) (ts : Tokens) : currentKind (t :: ts) = t.kind := rfl

/-- The next token goes on with a chain. -/
def StartsSegment (ts : Tokens) : Prop :=
  currentKind ts = .dot ∨ currentKind ts = .doubleDot ∨ currentKind ts = .leftBracket

/-- The next token closes a bracket, a group or a list of arguments, separates two of their parts or
    marks the end. -/
def Closes (ts : Tokens) : Prop :=
  currentKind ts = .rightBracket ∨ currentKind ts = .rightParen ∨ currentKind ts = .comma ∨
    currentKind ts = .eof

/-- The next token neither goes on with a chain nor is an operator that binds more tightly than the
    given level. -/
structure Stops (level : Nat) (ts : Tokens) : Prop where
  segment : ¬StartsSegment ts
  operator : ∀ operator, operator? (currentKind ts) = some operator → rank operator ≤ level

theorem Closes.not_startsSegment {ts : Tokens} (closes : Closes ts) : ¬StartsSegment ts := by
  rcases closes with kind | kind | kind | kind <;> simp [StartsSegment, kind]

theorem Closes.stops {ts : Tokens} (closes : Closes ts) (level : Nat) : Stops level ts where
  segment := closes.not_startsSegment
  operator operator same := by
    rcases closes with kind | kind | kind | kind <;> simp [kind, operator?] at same

theorem Stops.mono {low high : Nat} (le : low ≤ high) {ts : Tokens} (stops : Stops low ts) :
    Stops high ts :=
  ⟨stops.segment, fun operator same => (stops.operator operator same).trans le⟩

theorem stops_of_operator {sign : Token} {operator : Operator}
    (isOperator : operator? sign.kind = some operator) (ts : Tokens) :
    Stops (rank operator) (sign :: ts) where
  segment := by
    rintro (kind | kind | kind) <;> rw [currentKind_cons] at kind <;>
      simp [kind, operator?] at isOperator
  operator other same := by
    rw [currentKind_cons, isOperator] at same
    exact (congrArg rank (Option.some.inj same)).ge

theorem rank_le (operator : Operator) : rank operator ≤ 3 := by
  cases operator <;> decide

/-! ## Integers in brackets -/

theorem magnitude_of_isInteger {t : Token} (integer : IsInteger t) (negative : Bool)
    (nonzero : negative = true → t.lexeme ≠ "0")
    (small : (Text.decimalValue t.lexeme.toList : Int) < Number.signedLimit) :
    magnitude negative t = .ok (Text.decimalValue t.lexeme.toList) := by
  have digits : t.lexeme.toList.all Text.isDigit = true := List.all_eq_true.mpr integer.digits
  have notZero : (negative && t.lexeme == "0") = false := by
    cases negative with
    | false => rfl
    | true => simpa using nonzero rfl
  have notLarge : ¬(t.lexeme.toList.isEmpty = true ∨
      Number.signedLimit ≤ (Text.decimalValue t.lexeme.toList : Int)) := by
    rintro (empty | large)
    · exact integer.nonempty (List.isEmpty_iff.mp empty)
    · omega
  simp only [magnitude, digits, notZero, Bool.not_true, Bool.false_eq_true, if_false,
    if_neg notLarge]

theorem abs_le_of_isSafeInteger {value : Int} (safe : isSafeInteger value = true) :
    -9007199254740991 ≤ value ∧ value ≤ 9007199254740991 := by
  obtain ⟨low, high⟩ := Bool.and_eq_true_iff.mp safe
  exact ⟨of_decide_eq_true low, of_decide_eq_true high⟩

theorem integer?_of_signedInteger {ts : Tokens} {value : Int} (integer : SignedInteger ts value)
    (safe : isSafeInteger value = true) (rest : Tokens) :
    integer? (ts ++ rest) = .ok (some value, rest) := by
  have bounds := abs_le_of_isSafeInteger safe
  cases integer with
  | @positive t integer =>
      have read := magnitude_of_isInteger integer false (by simp)
        (by simp only [Number.signedLimit]; omega)
      simp [integer?, signedInteger, integer.kind, read]
  | @negative minus t sign integer nonzero =>
      have read := magnitude_of_isInteger integer true (fun _ => nonzero)
        (by simp only [Number.signedLimit]; omega)
      simp [integer?, signedInteger, sign, integer.kind, read]

/-- The next token is not part of an integer. -/
def EndsBound (ts : Tokens) : Prop := currentKind ts ≠ .minus ∧ currentKind ts ≠ .number

theorem integer?_of_bound {ts : Tokens} {bound : Option Int} (isBound : Bound ts bound)
    {rest : Tokens} (ends : EndsBound rest) : integer? (ts ++ rest) = .ok (bound, rest) := by
  cases isBound with
  | absent =>
      obtain ⟨minus, number⟩ := ends
      simp only [List.nil_append, integer?]
  | present integer safe => exact integer?_of_signedInteger integer safe rest

/-- The next token ends a selector. -/
def EndsSelector (ts : Tokens) : Prop :=
  currentKind ts = .comma ∨ currentKind ts = .rightBracket

theorem EndsSelector.closes {ts : Tokens} (ends : EndsSelector ts) : Closes ts := by
  rcases ends with kind | kind <;> simp [Closes, kind]

theorem EndsSelector.endsBound {ts : Tokens} (ends : EndsSelector ts) : EndsBound ts := by
  rcases ends with kind | kind <;> simp [EndsBound, kind]

theorem EndsSelector.not_colon {ts : Tokens} (ends : EndsSelector ts) :
    currentKind ts ≠ .colon := by
  rcases ends with kind | kind <;> simp [kind]

/-! ## What a function reads -/

/-- The function of a phrase reads its tokens as what they stand for, whatever stands behind them
    that does not go on with the phrase. -/
def Reads : (phrase : Phrase) → Tokens → phrase.Result → Prop
  | .segments, ts, links => ∀ fuel rest, ¬StartsSegment rest → 5 * ts.length + 1 ≤ fuel →
      segments fuel (ts ++ rest) = .ok (links, rest)
  | .bracket, ts, term => ∀ fuel rest, 5 * ts.length ≤ fuel →
      bracketed fuel (ts ++ rest) = .ok (term, rest)
  | .selectors, ts, terms => ∀ fuel opening missing closing rest, closing.kind = .rightBracket →
      5 * ts.length + 1 ≤ fuel →
      selectors fuel opening missing (ts ++ closing :: rest) = .ok (terms, rest)
  | .selector, ts, term => ∀ fuel rest, EndsSelector rest → 5 * ts.length ≤ fuel →
      selector fuel (ts ++ rest) = .ok (term, rest)
  | .level least, ts, e => ∀ fuel lower rest, lower ≤ least → Stops (least + 1) rest →
      5 * ts.length + 1 ≤ fuel →
      ∃ left, fuel ≤ left + ts.length + 1 ∧
        expression fuel lower (ts ++ rest) = operators left lower e rest
  | .operand, ts, e => ∀ fuel rest, ¬StartsSegment rest → 5 * ts.length ≤ fuel →
      operand fuel (ts ++ rest) = .ok (e, rest)
  | .arguments, ts, es => ∀ fuel rest, currentKind rest = .rightParen → 5 * ts.length + 4 ≤ fuel →
      arguments fuel (ts ++ rest) = .ok (es, rest)
  | .moreArguments, ts, es => ∀ fuel rest, currentKind rest = .rightParen →
      5 * ts.length + 3 ≤ fuel → moreArguments fuel (ts ++ rest) = .ok (es, rest)

/-! ## Segments -/

theorem segments_of_not_startsSegment {ts : Tokens} (ends : ¬StartsSegment ts) {fuel : Nat}
    (positive : 0 < fuel) : segments fuel ts = .ok ([], ts) := by
  obtain ⟨fuel, rfl⟩ := Nat.exists_eq_add_one.mpr positive
  simp only [StartsSegment, not_or] at ends
  obtain ⟨dot, dots, bracket⟩ := ends
  simp only [segments]
  rfl

theorem shorthand?_of_shorthand {t : Token} {term : Term} (shorthand : Shorthand t term)
    (ts : Tokens) : shorthand? (t :: ts) = some (term, ts) := by
  cases shorthand with
  | name kind denotes => simp [shorthand?, kind, denotes.text_eq]
  | star kind => simp [shorthand?, kind]

theorem shorthand?_leftBracket {t : Token} (kind : t.kind = .leftBracket) (ts : Tokens) :
    shorthand? (t :: ts) = none := by
  simp [shorthand?, kind]

theorem Reads.child {dot name : Token} {ts : List Token} {term : Term} {links : List Term}
    (dotKind : dot.kind = .dot) (shorthand : Shorthand name term) (more : Reads .segments ts links) :
    Reads .segments (dot :: name :: ts) (term :: links) := by
  intro fuel rest ends enough
  obtain ⟨fuel, rfl⟩ := Nat.exists_eq_add_one.mpr (show 0 < fuel by omega)
  simp only [List.length_cons] at enough
  have read := more fuel rest ends (by omega)
  simp [segments, dotKind, shorthand?_of_shorthand shorthand, read, bind, Except.bind, pure,
    Except.pure]

theorem Reads.descendant {dots name : Token} {ts : List Token} {term : Term} {links : List Term}
    (dotsKind : dots.kind = .doubleDot) (shorthand : Shorthand name term)
    (more : Reads .segments ts links) :
    Reads .segments (dots :: name :: ts) (.descendant (.ofTerm term) :: links) := by
  intro fuel rest ends enough
  obtain ⟨fuel, rfl⟩ := Nat.exists_eq_add_one.mpr (show 0 < fuel by omega)
  simp only [List.length_cons] at enough
  have read := more fuel rest ends (by omega)
  simp [segments, dotsKind, shorthand?_of_shorthand shorthand, read, bind, Except.bind, pure,
    Except.pure]

theorem Reads.children {opening : Token} {first ts : List Token} {term : Term} {links : List Term}
    (openingKind : opening.kind = .leftBracket) (bracket : Reads .bracket (opening :: first) term)
    (more : Reads .segments ts links) :
    Reads .segments (opening :: first ++ ts) (term :: links) := by
  intro fuel rest ends enough
  obtain ⟨fuel, rfl⟩ := Nat.exists_eq_add_one.mpr (show 0 < fuel by omega)
  simp only [List.length_append, List.length_cons] at enough
  have readBracket := bracket fuel (ts ++ rest) (by simp only [List.length_cons]; omega)
  have read := more fuel rest ends (by omega)
  rw [List.cons_append] at readBracket
  simp [segments, openingKind, readBracket, read, bind, Except.bind, pure, Except.pure]

theorem Reads.descendants {dots opening : Token} {first ts : List Token} {term : Term}
    {links : List Term} (dotsKind : dots.kind = .doubleDot)
    (openingKind : opening.kind = .leftBracket) (bracket : Reads .bracket (opening :: first) term)
    (more : Reads .segments ts links) :
    Reads .segments (dots :: (opening :: first ++ ts)) (.descendant (.ofTerm term) :: links) := by
  intro fuel rest ends enough
  obtain ⟨fuel, rfl⟩ := Nat.exists_eq_add_one.mpr (show 0 < fuel by omega)
  simp only [List.length_append, List.length_cons] at enough
  have readBracket := bracket fuel (ts ++ rest) (by simp only [List.length_cons]; omega)
  have read := more fuel rest ends (by omega)
  rw [List.cons_append] at readBracket
  simp [segments, dotsKind, shorthand?_leftBracket openingKind, openingKind, readBracket, read,
    bind, Except.bind, pure, Except.pure]

/-! ## Selectors -/

theorem Reads.bracket {opening closing : Token} {ts : List Token} {terms : List Term}
    (selectors : Reads .selectors ts terms) (closingKind : closing.kind = .rightBracket) :
    Reads .bracket (opening :: (ts ++ [closing])) (bracketTerm terms) := by
  intro fuel rest enough
  simp only [List.length_cons, List.length_append, List.length_nil] at enough
  obtain ⟨fuel, rfl⟩ := Nat.exists_eq_add_one.mpr (show 0 < fuel by omega)
  have read := selectors fuel opening .emptyBrackets closing rest closingKind (by omega)
  simp [bracketed, read, bind, Except.bind, pure, Except.pure]

theorem currentKind_ne_of_selector {fuel : Nat} {ts rest : Tokens} {term : Term}
    (read : selector fuel ts = .ok (term, rest)) : currentKind ts ≠ .rightBracket := by
  intro kind
  cases fuel with
  | zero => simp [selector, failAt] at read
  | succ fuel => simp [selector, kind, unexpected, failAt] at read

theorem Reads.oneSelector {ts : List Token} {term : Term} (first : Reads .selector ts term) :
    Reads .selectors ts [term] := by
  intro fuel opening missing closing rest closingKind enough
  obtain ⟨fuel, rfl⟩ := Nat.exists_eq_add_one.mpr (show 0 < fuel by omega)
  have read := first fuel (closing :: rest) (.inr closingKind) (by omega)
  have notClosed := currentKind_ne_of_selector read
  simp [selectors, notClosed, read, closingKind, bind, Except.bind, pure, Except.pure]

theorem Reads.moreSelectors {comma : Token} {ts us : List Token} {term : Term} {terms : List Term}
    (first : Reads .selector ts term) (commaKind : comma.kind = .comma)
    (more : Reads .selectors us terms) :
    Reads .selectors (ts ++ comma :: us) (term :: terms) := by
  intro fuel opening missing closing rest closingKind enough
  simp only [List.length_append, List.length_cons] at enough
  obtain ⟨fuel, rfl⟩ := Nat.exists_eq_add_one.mpr (show 0 < fuel by omega)
  have readFirst := first fuel (comma :: (us ++ closing :: rest)) (.inl commaKind) (by omega)
  have readMore := more fuel opening .trailingComma closing rest closingKind (by omega)
  have notClosed := currentKind_ne_of_selector readFirst
  simp [selectors, notClosed, readFirst, commaKind, readMore, bind, Except.bind, pure,
    Except.pure]

theorem Reads.name {t : Token} {name : String} (kind : t.kind = .string)
    (denotes : Denotes t name) : Reads .selector [t] (.name name) := by
  intro fuel rest _ enough
  simp only [List.length_cons, List.length_nil] at enough
  obtain ⟨fuel, rfl⟩ := Nat.exists_eq_add_one.mpr (show 0 < fuel by omega)
  simp [selector, kind, denotes.text_eq, pure, Except.pure]

theorem Reads.wildcard {t : Token} (kind : t.kind = .star) : Reads .selector [t] .wildcard := by
  intro fuel rest _ enough
  simp only [List.length_cons, List.length_nil] at enough
  obtain ⟨fuel, rfl⟩ := Nat.exists_eq_add_one.mpr (show 0 < fuel by omega)
  simp [selector, kind, pure, Except.pure]

/-- An index or a slice begins with its first bound or, where that is missing, with a colon. -/
theorem selector_of_bound {ts : List Token} {bound : Option Int} (isBound : Bound ts bound)
    (fuel : Nat) {rest : Tokens} (follows : bound = none → currentKind rest = .colon) :
    selector (fuel + 1) (ts ++ rest) = indexOrSlice (ts ++ rest) := by
  cases isBound with
  | absent => simp [selector, follows rfl]
  | present integer safe =>
      cases integer with
      | positive integer => simp [selector, integer.kind]
      | negative sign integer nonzero => simp [selector, sign]

theorem isSafeInteger_of_bound {ts : List Token} {value : Int} (isBound : Bound ts (some value)) :
    isSafeInteger value = true := by
  cases isBound with
  | present integer safe => exact safe

theorem firstUnsafe_cons_of_bound {ts : List Token} {bound : Option Int} (isBound : Bound ts bound)
    (bounds : List (Option Int)) :
    Term.firstUnsafe (bound :: bounds) = Term.firstUnsafe bounds := by
  cases isBound with
  | absent => rfl
  | present integer safe => simp [Term.firstUnsafe, safe]

theorem endsBound_colon {colon : Token} (kind : colon.kind = .colon) (ts : Tokens) :
    EndsBound (colon :: ts) := by
  simp [EndsBound, kind]

theorem Reads.index {ts : List Token} {value : Int} (bound : Bound ts (some value)) :
    Reads .selector ts (.index value) := by
  intro fuel rest ends enough
  have positive : 0 < ts.length := by
    cases bound with
    | present integer safe => cases integer <;> simp
  obtain ⟨fuel, rfl⟩ := Nat.exists_eq_add_one.mpr (show 0 < fuel by omega)
  have read := integer?_of_bound bound ends.endsBound
  rw [selector_of_bound bound fuel (by simp)]
  simp [indexOrSlice, read, ends.not_colon, Term.index?, isSafeInteger_of_bound bound, checked,
    bind, Except.bind, pure, Except.pure]

theorem Reads.slice {colon : Token} {first second : List Token} {start stop : Option Int}
    (startBound : Bound first start) (colonKind : colon.kind = .colon)
    (stopBound : Bound second stop) :
    Reads .selector (first ++ colon :: second) (.slice start stop none) := by
  intro fuel rest ends enough
  simp only [List.length_append, List.length_cons] at enough
  obtain ⟨fuel, rfl⟩ := Nat.exists_eq_add_one.mpr (show 0 < fuel by omega)
  have readStart := integer?_of_bound startBound (endsBound_colon colonKind (second ++ rest))
  have readStop := integer?_of_bound stopBound ends.endsBound
  have safe : Term.slice? start stop none = .ok (.slice start stop none) := by
    simp only [Term.slice?, firstUnsafe_cons_of_bound startBound,
      firstUnsafe_cons_of_bound stopBound, Term.firstUnsafe]
  rw [List.append_assoc, List.cons_append, selector_of_bound startBound fuel (by simp [colonKind])]
  simp [indexOrSlice, readStart, colonKind, readStop, stride?, ends.not_colon, safe, checked, bind,
    Except.bind, pure, Except.pure]

theorem Reads.stridedSlice {colon colon' : Token} {first second third : List Token}
    {start stop step : Option Int} (startBound : Bound first start)
    (colonKind : colon.kind = .colon) (stopBound : Bound second stop)
    (colonKind' : colon'.kind = .colon) (stepBound : Bound third step) :
    Reads .selector (first ++ colon :: (second ++ colon' :: third)) (.slice start stop step) := by
  intro fuel rest ends enough
  simp only [List.length_append, List.length_cons] at enough
  obtain ⟨fuel, rfl⟩ := Nat.exists_eq_add_one.mpr (show 0 < fuel by omega)
  have readStart := integer?_of_bound startBound
    (endsBound_colon colonKind (second ++ colon' :: (third ++ rest)))
  have readStop := integer?_of_bound stopBound (endsBound_colon colonKind' (third ++ rest))
  have readStep := integer?_of_bound stepBound ends.endsBound
  have safe : Term.slice? start stop step = .ok (.slice start stop step) := by
    simp only [Term.slice?, firstUnsafe_cons_of_bound startBound,
      firstUnsafe_cons_of_bound stopBound, firstUnsafe_cons_of_bound stepBound, Term.firstUnsafe]
  rw [List.append_assoc, List.cons_append, selector_of_bound startBound fuel (by simp [colonKind])]
  simp [indexOrSlice, readStart, colonKind, readStop, stride?, colonKind', readStep,
    ends.not_colon, safe, checked, bind, Except.bind, pure, Except.pure]

/-! ## Expressions -/

theorem operators_of_stops {level : Nat} {ts : Tokens} (stops : Stops level ts) {fuel : Nat}
    (positive : 0 < fuel) {least : Nat} (le : level ≤ least) (e : Expr) :
    operators fuel least e ts = .ok (e, ts) := by
  obtain ⟨fuel, rfl⟩ := Nat.exists_eq_add_one.mpr positive
  have none : tighterOperator? least ts = none := by
    refine Option.filter_eq_none_iff.mpr fun operator same => ?_
    have := stops.operator operator same
    simp only [decide_eq_true_eq, not_lt]
    omega
  simp [operators, none, pure, Except.pure]

theorem Reads.expression_eq {ts : List Token} {e : Expr} (reads : Reads (.level 0) ts e)
    {fuel : Nat} (enough : 5 * ts.length + 2 ≤ fuel) {rest : Tokens} (closes : Closes rest) :
    expression fuel 0 (ts ++ rest) = .ok (e, rest) := by
  obtain ⟨left, le, same⟩ := reads fuel 0 rest le_rfl (closes.stops 1) (by omega)
  rw [same]
  exact operators_of_stops (closes.stops 0) (by omega) le_rfl e

theorem Reads.operand {ts : List Token} {e : Expr} (reads : Reads .operand ts e) :
    Reads (.level 3) ts e := by
  intro fuel lower rest _ stops enough
  obtain ⟨fuel, rfl⟩ := Nat.exists_eq_add_one.mpr (show 0 < fuel by omega)
  have read := reads fuel rest stops.segment (by omega)
  refine ⟨fuel, by omega, ?_⟩
  simp [expression, read, bind, Except.bind]

theorem Reads.tighter {least : Nat} {ts : List Token} {e : Expr}
    (reads : Reads (.level (least + 1)) ts e) : Reads (.level least) ts e := by
  intro fuel lower rest le stops enough
  exact reads fuel lower rest (by omega) (stops.mono (by omega)) enough

theorem Reads.operation {least : Nat} {operator : Operator} {sign : Token}
    {first second : List Token} {left right : Expr} {term : Term}
    (leftSide : Reads (.level least) first left) (operatorAt : OperatorAt least sign.kind operator)
    (rightSide : Reads (.level (least + 1)) second right)
    (check : Term.binary? operator left right = .ok term) :
    Reads (.level least) (first ++ sign :: second) (.ofTerm term) := by
  intro fuel lower rest le stops enough
  obtain ⟨isOperator, isRank⟩ := operatorAt_iff.mp operatorAt
  simp only [List.length_append, List.length_cons] at enough
  have stopsLeft : Stops (least + 1) (sign :: (second ++ rest)) :=
    isRank ▸ stops_of_operator isOperator (second ++ rest)
  obtain ⟨afterLeft, leLeft, readLeft⟩ :=
    leftSide fuel lower (sign :: (second ++ rest)) le stopsLeft (by omega)
  obtain ⟨afterLeft, rfl⟩ := Nat.exists_eq_add_one.mpr (show 0 < afterLeft by omega)
  obtain ⟨afterRight, leRight, readRight⟩ :=
    rightSide afterLeft (least + 1) rest le_rfl (stops.mono (by omega)) (by omega)
  rw [operators_of_stops stops (show 0 < afterRight by omega) le_rfl right] at readRight
  have tighter : tighterOperator? lower (sign :: (second ++ rest)) = some operator := by
    simp only [tighterOperator?, currentKind_cons, isOperator, Option.filter_some, isRank]
    rw [if_pos (decide_eq_true (by omega))]
  refine ⟨afterLeft, by simp only [List.length_append, List.length_cons]; omega, ?_⟩
  rw [List.append_assoc, List.cons_append, readLeft, operators, tighter]
  simp [isRank, readRight, combine, check, checked, Except.map, bind, Except.bind]

theorem Reads.filter {question : Token} {ts : List Token} {condition : Expr} {term : Term}
    (kind : question.kind = .question) (expression : Reads (.level 0) ts condition)
    (check : Term.filter? condition = .ok term) :
    Reads .selector (question :: ts) term := by
  intro fuel rest ends enough
  simp only [List.length_cons] at enough
  obtain ⟨fuel, rfl⟩ := Nat.exists_eq_add_one.mpr (show 0 < fuel by omega)
  have read := expression.expression_eq (show 5 * ts.length + 2 ≤ fuel by omega) ends.closes
  simp [selector, kind, read, check, checked, bind, Except.bind, pure, Except.pure]

theorem closes_of_rightParen {ts : Tokens} (kind : currentKind ts = .rightParen) : Closes ts :=
  .inr (.inl kind)

theorem Reads.group {opening closing : Token} {ts : List Token} {e : Expr}
    (openingKind : opening.kind = .leftParen) (expression : Reads (.level 0) ts e)
    (closingKind : closing.kind = .rightParen) :
    Reads .operand (opening :: (ts ++ [closing])) e.group := by
  intro fuel rest _ enough
  simp only [List.length_cons, List.length_append, List.length_nil] at enough
  obtain ⟨fuel, rfl⟩ := Nat.exists_eq_add_one.mpr (show 0 < fuel by omega)
  have closes : Closes (closing :: rest) := closes_of_rightParen closingKind
  have read := expression.expression_eq (show 5 * ts.length + 2 ≤ fuel by omega) closes
  simp [Parser.operand, openingKind, read, closingKind, bind, Except.bind, pure, Except.pure]

/-- No operator binds more tightly than a negation, so that its operand is all there is of it. -/
theorem Reads.negation {sign : Token} {ts : List Token} {e : Expr} {term : Term}
    (kind : sign.kind = .not) (operand : Reads .operand ts e) (check : Term.not? e = .ok term) :
    Reads .operand (sign :: ts) (.ofTerm term) := by
  intro fuel rest ends enough
  simp only [List.length_cons] at enough
  obtain ⟨fuel, rfl⟩ := Nat.exists_eq_add_one.mpr (show 1 ≤ fuel by omega)
  obtain ⟨fuel, rfl⟩ := Nat.exists_eq_add_one.mpr (show 0 < fuel by omega)
  have read := operand fuel rest ends (by omega)
  have stops : Stops 3 rest := ⟨ends, fun operator _ => rank_le operator⟩
  have readAll : expression (fuel + 1) negationRank (ts ++ rest) = .ok (e, rest) := by
    simp only [expression, read, bind, Except.bind]
    exact operators_of_stops stops (by omega) (by decide) e
  simp [Parser.operand, kind, readAll, check, checked, bind, Except.bind, pure, Except.pure]

theorem Reads.query {sign : Token} {ts : List Token} {identifier : Term} {links : List Term}
    (kind : identifier? sign.kind = some identifier) (more : Reads .segments ts links) :
    Reads .operand (sign :: ts) (.chain identifier links false) := by
  intro fuel rest ends enough
  simp only [List.length_cons] at enough
  obtain ⟨fuel, rfl⟩ := Nat.exists_eq_add_one.mpr (show 0 < fuel by omega)
  have read := more fuel rest ends (by omega)
  cases signKind : sign.kind <;> simp [signKind, identifier?] at kind <;> subst kind <;>
    simp [Parser.operand, signKind, read, bind, Except.bind, pure, Except.pure]

theorem Reads.string {t : Token} {text : String} (kind : t.kind = .string)
    (denotes : Denotes t text) : Reads .operand [t] (.ofTerm (.string text)) := by
  intro fuel rest _ enough
  simp only [List.length_cons, List.length_nil] at enough
  obtain ⟨fuel, rfl⟩ := Nat.exists_eq_add_one.mpr (show 0 < fuel by omega)
  simp [Parser.operand, kind, denotes.text_eq, pure, Except.pure]

theorem numberOf_of_literal {t : Token} {value : Number} (literal : t.literal = some (.number value)) :
    numberOf t = .ok value := by
  simp [numberOf, literal]

theorem Reads.number {t : Token} {value : Number} (kind : t.kind = .number)
    (literal : t.literal = some (.number value)) :
    Reads .operand [t] (.ofTerm (.number value)) := by
  intro fuel rest _ enough
  simp only [List.length_cons, List.length_nil] at enough
  obtain ⟨fuel, rfl⟩ := Nat.exists_eq_add_one.mpr (show 0 < fuel by omega)
  simp [Parser.operand, kind, numberOf_of_literal literal, bind, Except.bind, pure, Except.pure]

theorem Reads.negativeNumber {minus t : Token} {value opposite : Number}
    (sign : minus.kind = .minus) (kind : t.kind = .number)
    (literal : t.literal = some (.number value)) (isOpposite : Opposite value opposite) :
    Reads .operand [minus, t] (.ofTerm (.number opposite)) := by
  intro fuel rest _ enough
  simp only [List.length_cons, List.length_nil] at enough
  obtain ⟨fuel, rfl⟩ := Nat.exists_eq_add_one.mpr (show 0 < fuel by omega)
  simp [Parser.operand, sign, kind, numberOf_of_literal literal, isOpposite.negated_eq, bind,
    Except.bind, pure, Except.pure]

theorem Reads.keyword {t : Token} {term : Term} (kind : keyword? t.kind = some term) :
    Reads .operand [t] (.ofTerm term) := by
  intro fuel rest _ enough
  simp only [List.length_cons, List.length_nil] at enough
  obtain ⟨fuel, rfl⟩ := Nat.exists_eq_add_one.mpr (show 0 < fuel by omega)
  cases wordKind : t.kind <;> simp [wordKind, keyword?] at kind <;> subst kind <;>
    simp [Parser.operand, wordKind, pure, Except.pure]

/-! ## Calls -/

theorem currentKind_ne_of_moreArguments {fuel : Nat} {ts rest : Tokens} {es : List Expr}
    (read : moreArguments fuel ts = .ok (es, rest)) : currentKind ts ≠ .rightParen := by
  intro kind
  rcases fuel with - | - | - | fuel <;>
    simp [moreArguments, expression, Parser.operand, kind, unexpected, failAt, bind,
      Except.bind] at read

theorem Reads.noArguments : Reads .arguments [] [] := by
  intro fuel rest kind enough
  obtain ⟨fuel, rfl⟩ := Nat.exists_eq_add_one.mpr (show 0 < fuel by omega)
  simp [Parser.arguments, kind, pure, Except.pure]

theorem Reads.arguments {ts : List Token} {es : List Expr} (more : Reads .moreArguments ts es) :
    Reads .arguments ts es := by
  intro fuel rest kind enough
  obtain ⟨fuel, rfl⟩ := Nat.exists_eq_add_one.mpr (show 0 < fuel by omega)
  have read := more fuel rest kind (by omega)
  simp [Parser.arguments, currentKind_ne_of_moreArguments read, read]

theorem Reads.lastArgument {ts : List Token} {e : Expr} (expression : Reads (.level 0) ts e) :
    Reads .moreArguments ts [e] := by
  intro fuel rest kind enough
  obtain ⟨fuel, rfl⟩ := Nat.exists_eq_add_one.mpr (show 0 < fuel by omega)
  have read := expression.expression_eq (show 5 * ts.length + 2 ≤ fuel by omega)
    (closes_of_rightParen kind)
  simp [moreArguments, read, kind, bind, Except.bind, pure, Except.pure]

theorem Reads.nextArgument {comma : Token} {first ts : List Token} {e : Expr} {es : List Expr}
    (expression : Reads (.level 0) first e) (commaKind : comma.kind = .comma)
    (more : Reads .moreArguments ts es) : Reads .moreArguments (first ++ comma :: ts) (e :: es) := by
  intro fuel rest kind enough
  simp only [List.length_append, List.length_cons] at enough
  obtain ⟨fuel, rfl⟩ := Nat.exists_eq_add_one.mpr (show 0 < fuel by omega)
  have closes : Closes (comma :: (ts ++ rest)) := .inr (.inr (.inl commaKind))
  have readFirst := expression.expression_eq (show 5 * first.length + 2 ≤ fuel by omega) closes
  have readMore := more fuel rest kind (by omega)
  simp [moreArguments, readFirst, commaKind, readMore, bind, Except.bind, pure, Except.pure]

theorem Reads.call {name opening closing : Token} {ts : List Token} {function : Function}
    {es : List Expr} {term : Term} (kind : name.kind = .function)
    (known : Function.ofName? name.lexeme = some function)
    (openingKind : opening.kind = .leftParen) (inner : Reads .arguments ts es)
    (closingKind : closing.kind = .rightParen) (check : Term.call? function es = .ok term) :
    Reads .operand (name :: opening :: (ts ++ [closing])) (.ofTerm term) := by
  intro fuel rest _ enough
  simp only [List.length_cons, List.length_append, List.length_nil] at enough
  obtain ⟨fuel, rfl⟩ := Nat.exists_eq_add_one.mpr (show 0 < fuel by omega)
  have read := inner fuel (closing :: rest) closingKind (by omega)
  simp [Parser.operand, kind, known, openingKind, read, closingKind, check, checked, bind,
    Except.bind, pure, Except.pure]

/-! ## Whole queries -/

theorem Derives.opening {ts : List Token} {term : Term} (bracket : Derives .bracket ts term) :
    ∃ opening more, ts = opening :: more ∧ opening.kind = .leftBracket := by
  cases bracket with
  | alone openingKind selectors closingKind => exact ⟨_, _, rfl, openingKind⟩
  | several openingKind selectors many closingKind => exact ⟨_, _, rfl, openingKind⟩

/-- What the grammar derives is found. -/
theorem Derives.reads {phrase : Phrase} {ts : List Token} {result : phrase.Result}
    (derives : Derives phrase ts result) : Reads phrase ts result := by
  induction derives with
  | noSegments =>
      intro fuel rest ends enough
      exact segments_of_not_startsSegment ends (by omega)
  | child dotKind shorthand _ more => exact more.child dotKind shorthand
  | descendant dotsKind shorthand _ more => exact more.descendant dotsKind shorthand
  | children bracket _ readsBracket more =>
      obtain ⟨opening, tokens, rfl, openingKind⟩ := bracket.opening
      exact readsBracket.children openingKind more
  | descendants dotsKind bracket _ readsBracket more =>
      obtain ⟨opening, tokens, rfl, openingKind⟩ := bracket.opening
      exact readsBracket.descendants dotsKind openingKind more
  | alone _ _ closingKind selectors => exact selectors.bracket closingKind
  | several _ _ many closingKind selectors =>
      rw [← bracketTerm_of_many many]
      exact selectors.bracket closingKind
  | oneSelector _ selector => exact selector.oneSelector
  | moreSelectors _ commaKind _ selector more => exact selector.moreSelectors commaKind more
  | name kind denotes => exact .name kind denotes
  | wildcard kind => exact .wildcard kind
  | filter kind _ check expression => exact expression.filter kind check
  | index bound => exact .index bound
  | slice startBound colonKind stopBound => exact .slice startBound colonKind stopBound
  | stridedSlice startBound colonKind stopBound colonKind' stepBound =>
      exact .stridedSlice startBound colonKind stopBound colonKind' stepBound
  | operand _ operand => exact operand.operand
  | tighter _ expression => exact expression.tighter
  | operation _ isOperator _ check leftSide rightSide =>
      exact leftSide.operation isOperator rightSide check
  | group openingKind _ closingKind expression => exact expression.group openingKind closingKind
  | negation kind _ check operand => exact operand.negation kind check
  | query kind _ more => exact more.query kind
  | string kind denotes => exact .string kind denotes
  | number kind literal => exact .number kind literal
  | negativeNumber sign kind literal isOpposite =>
      exact .negativeNumber sign kind literal isOpposite
  | keyword kind => exact .keyword kind
  | call kind known openingKind _ closingKind check inner =>
      exact inner.call kind known openingKind closingKind check
  | noArguments => exact .noArguments
  | arguments _ more => exact more.arguments
  | lastArgument _ expression => exact expression.lastArgument
  | nextArgument _ commaKind _ expression more => exact expression.nextArgument commaKind more

/-- Segments in front of others are found first, whether or not the others can be read. -/
theorem Derives.segments_append {us : List Token} {links : List Term}
    (derives : Derives .segments us links) (rest : Tokens) {fuel : Nat}
    (enough : 5 * us.length + 1 ≤ fuel) :
    ∃ left, fuel ≤ left + us.length ∧ segments fuel (us ++ rest) =
      (segments left rest).map fun found => (links ++ found.1, found.2) := by
  cases derives with
  | noSegments =>
      refine ⟨fuel, by simp, ?_⟩
      cases found : segments fuel rest <;> simp [found, Except.map]
  | @child dot name us term links dotKind shorthand more =>
      simp only [List.length_cons] at enough ⊢
      obtain ⟨fuel, rfl⟩ := Nat.exists_eq_add_one.mpr (show 0 < fuel by omega)
      obtain ⟨left, low, read⟩ := more.segments_append rest (show 5 * us.length + 1 ≤ fuel by omega)
      refine ⟨left, by omega, ?_⟩
      cases found : segments left rest <;>
        simp [segments, dotKind, shorthand?_of_shorthand shorthand, read, found, bind, Except.bind,
          pure, Except.pure, Except.map]
  | @descendant dots name us term links dotsKind shorthand more =>
      simp only [List.length_cons] at enough ⊢
      obtain ⟨fuel, rfl⟩ := Nat.exists_eq_add_one.mpr (show 0 < fuel by omega)
      obtain ⟨left, low, read⟩ := more.segments_append rest (show 5 * us.length + 1 ≤ fuel by omega)
      refine ⟨left, by omega, ?_⟩
      cases found : segments left rest <;>
        simp [segments, dotsKind, shorthand?_of_shorthand shorthand, read, found, bind, Except.bind,
          pure, Except.pure, Except.map]
  | @children first us term links bracket more =>
      obtain ⟨opening, tokens, rfl, openingKind⟩ := bracket.opening
      simp only [List.length_append, List.length_cons] at enough ⊢
      obtain ⟨fuel, rfl⟩ := Nat.exists_eq_add_one.mpr (show 0 < fuel by omega)
      obtain ⟨left, low, read⟩ := more.segments_append rest (show 5 * us.length + 1 ≤ fuel by omega)
      have readBracket := bracket.reads fuel (us ++ rest) (by simp only [List.length_cons]; omega)
      rw [List.cons_append] at readBracket
      refine ⟨left, by omega, ?_⟩
      cases found : segments left rest <;>
        simp [segments, openingKind, readBracket, read, found, bind, Except.bind, pure, Except.pure,
          Except.map]
  | @descendants dots first us term links dotsKind bracket more =>
      obtain ⟨opening, tokens, rfl, openingKind⟩ := bracket.opening
      simp only [List.length_append, List.length_cons] at enough ⊢
      obtain ⟨fuel, rfl⟩ := Nat.exists_eq_add_one.mpr (show 0 < fuel by omega)
      obtain ⟨left, low, read⟩ := more.segments_append rest (show 5 * us.length + 1 ≤ fuel by omega)
      have readBracket := bracket.reads fuel (us ++ rest) (by simp only [List.length_cons]; omega)
      rw [List.cons_append] at readBracket
      refine ⟨left, by omega, ?_⟩
      cases found : segments left rest <;>
        simp [segments, dotsKind, shorthand?_leftBracket openingKind, openingKind, readBracket, read,
          found, bind, Except.bind, pure, Except.pure, Except.map]

/-- A query is found between its first token and an end mark, whatever stands behind that. -/
theorem query_append {root : Token} {ts rest : List Token} {links : List Term}
    (rootKind : root.kind = .root) (derives : Derives .segments ts links)
    (ended : currentKind rest = .eof) : query (root :: (ts ++ rest)) = .ok links := by
  have ends : ¬StartsSegment rest := by simp [StartsSegment, ended]
  have read := derives.reads (budget (root :: (ts ++ rest))) rest ends
    (by simp only [budget, List.length_cons, List.length_append]; omega)
  simp [query, rootKind, read, ended, bind, Except.bind, pure, Except.pure]

theorem query_of_derives {root eof : Token} {ts : List Token} {links : List Term}
    (rootKind : root.kind = .root) (derives : Derives .segments ts links)
    (eofKind : eof.kind = .eof) : query (root :: (ts ++ [eof])) = .ok links :=
  query_append rootKind derives (show currentKind [eof] = .eof from eofKind)

end JsonQuery.Parser

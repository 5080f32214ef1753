import Mathlib.Tactic
import Mathlib.Data.List.TakeWhile
import JsonQuery.Proofs.ParserCompleteness

/-! # The parser finds only what the grammar derives

Whatever a function of the parser reads is a phrase of the grammar, and stands in front of the
tokens that it gives back. Together with completeness this makes the parser and the grammar agree on
every list of tokens, and the grammar unambiguous.
-/

namespace JsonQuery.Parser

/-- The phrase stands in front of what is left. -/
def Finds (phrase : Phrase) (ts : Tokens) (result : phrase.Result) (rest : Tokens) : Prop :=
  ∃ used, ts = used ++ rest ∧ Derives phrase used result

theorem bind_eq_ok {ε α β : Type} {first : Except ε α} {second : α → Except ε β} {result : β}
    (ok : first >>= second = .ok result) : ∃ value, first = .ok value ∧ second value = .ok result := by
  cases first with
  | error failure => cases ok
  | ok value => exact ⟨value, rfl, ok⟩

theorem exists_cons {ts : Tokens} {kind : Token.Kind} (isKind : currentKind ts = kind)
    (notEnd : kind ≠ .eof) : ∃ t rest, ts = t :: rest ∧ t.kind = kind := by
  cases ts with
  | nil => exact absurd isKind.symm notEnd
  | cons t rest => exact ⟨t, rest, rfl, isKind⟩

theorem checked_eq_ok {t : Token} {check : Except Misfit Term} {term : Term}
    (ok : checked t check = .ok term) : check = .ok term := by
  cases check with
  | error misfit => cases ok
  | ok other =>
      cases ok
      rfl

/-! ## Integers in brackets -/

theorem magnitude_eq_ok {negative : Bool} {t : Token} {value : Nat}
    (ok : magnitude negative t = .ok value) :
    t.lexeme.toList ≠ [] ∧ (∀ c ∈ t.lexeme.toList, Text.isDigit c = true) ∧
      (negative = true → t.lexeme ≠ "0") ∧ value = Text.decimalValue t.lexeme.toList := by
  simp only [magnitude] at ok
  split at ok
  · cases ok
  · next digits =>
      split at ok
      · cases ok
      · next nonzero =>
          split at ok
          · cases ok
          · next fits =>
              cases ok
              simp only [Bool.not_eq_true', Bool.not_eq_false, List.all_eq_true] at digits
              simp only [List.isEmpty_iff, not_or] at fits
              refine ⟨fits.1, digits, fun isNegative isZero => nonzero ?_, rfl⟩
              simp [isNegative, isZero]

theorem integer?_eq_ok {ts rest : Tokens} {bound : Option Int} (ok : integer? ts = .ok (bound, rest)) :
    (bound = none ∧ ts = rest) ∨
      ∃ value used, bound = some value ∧ ts = used ++ rest ∧ SignedInteger used value := by
  have signed : ∀ {negative : Bool} {ts : Tokens}, signedInteger negative ts = .ok (bound, rest) →
      ∃ t value, ts = t :: rest ∧ IsInteger t ∧ (negative = true → t.lexeme ≠ "0") ∧
        value = Text.decimalValue t.lexeme.toList ∧
          bound = some (if negative then -(value : Int) else value) := by
    intro negative ts ok
    rw [signedInteger] at ok
    split at ok
    · next isNumber =>
        obtain ⟨t, after, rfl, kind⟩ := exists_cons isNumber (by decide)
        split at ok
        · cases ok
        · next value isMagnitude =>
            cases ok
            obtain ⟨nonempty, digits, nonzero, same⟩ := magnitude_eq_ok isMagnitude
            exact ⟨t, value, rfl, ⟨kind, nonempty, digits⟩, nonzero, same, rfl⟩
    · cases ok
  rw [integer?] at ok
  split at ok
  · next isMinus =>
      obtain ⟨minus, after, rfl, kind⟩ := exists_cons isMinus (by decide)
      obtain ⟨t, value, same, integer, nonzero, rfl, rfl⟩ := signed ok
      obtain rfl : after = t :: rest := same
      exact .inr ⟨_, [minus, t], rfl, rfl, .negative kind integer (nonzero rfl)⟩
  · obtain ⟨t, value, rfl, integer, _, rfl, rfl⟩ := signed ok
    exact .inr ⟨_, [t], rfl, rfl, .positive integer⟩
  · cases ok
    exact .inl ⟨rfl, rfl⟩

theorem bound_of_integer? {ts rest : Tokens} {bound : Option Int}
    (ok : integer? ts = .ok (bound, rest)) (safe : ∀ value ∈ bound, isSafeInteger value = true) :
    ∃ used, ts = used ++ rest ∧ Bound used bound := by
  rcases integer?_eq_ok ok with ⟨rfl, rfl⟩ | ⟨value, used, rfl, rfl, integer⟩
  · exact ⟨[], rfl, .absent⟩
  · exact ⟨used, rfl, .present integer (safe value rfl)⟩

theorem firstUnsafe_eq_none {bounds : List (Option Int)} (none : Term.firstUnsafe bounds = none) :
    ∀ bound ∈ bounds, ∀ value ∈ bound, isSafeInteger value = true := by
  induction bounds with
  | nil => simp
  | cons first rest ih =>
      cases first with
      | none =>
          rw [Term.firstUnsafe] at none
          simpa using ih none
      | some value =>
          rw [Term.firstUnsafe] at none
          split at none
          · next safe => simpa [safe] using ih none
          · cases none

theorem firstUnsafe_eq_none_iff {bounds : List (Option Int)} :
    Term.firstUnsafe bounds = none ↔
      ∀ bound ∈ bounds, ∀ value ∈ bound, isSafeInteger value = true := by
  refine ⟨firstUnsafe_eq_none, fun safe => ?_⟩
  induction bounds with
  | nil => rfl
  | cons first rest ih =>
      obtain ⟨isFirst, isRest⟩ := List.forall_mem_cons.mp safe
      cases first with
      | none => exact ih isRest
      | some value => rw [Term.firstUnsafe, if_pos (isFirst value rfl), ih isRest]

theorem slice?_eq_ok {start stop step : Option Int} {term : Term}
    (ok : Term.slice? start stop step = .ok term) :
    (∀ bound ∈ [start, stop, step], ∀ value ∈ bound, isSafeInteger value = true) ∧
      term = .slice start stop step := by
  rw [Term.slice?] at ok
  split at ok
  · next isNone =>
      cases ok
      exact ⟨firstUnsafe_eq_none isNone, rfl⟩
  · cases ok

theorem indexOrSlice_sound {ts rest : Tokens} {term : Term}
    (ok : indexOrSlice ts = .ok (term, rest)) : Finds .selector ts term rest := by
  obtain ⟨⟨start, afterStart⟩, isStart, ok⟩ := bind_eq_ok ok
  simp only at ok
  split at ok
  · next isColon =>
      obtain ⟨colon, tail, rfl, colonKind⟩ := exists_cons isColon (by decide)
      obtain ⟨⟨stop, afterStop⟩, isStop, ok⟩ := bind_eq_ok ok
      obtain ⟨⟨step, afterStep⟩, isStep, ok⟩ := bind_eq_ok ok
      simp only at ok
      split at ok
      · cases ok
      · obtain ⟨checkedTerm, isChecked, ok⟩ := bind_eq_ok ok
        cases ok
        obtain ⟨safe, rfl⟩ := slice?_eq_ok (checked_eq_ok isChecked)
        simp only [List.forall_mem_cons] at safe
        obtain ⟨safeStart, safeStop, safeStep, _⟩ := safe
        obtain ⟨first, rfl, startBound⟩ := bound_of_integer? isStart safeStart
        obtain ⟨second, same, stopBound⟩ := bound_of_integer? isStop safeStop
        obtain rfl : tail = second ++ afterStop := same
        rw [stride?] at isStep
        split at isStep
        · next isColon' =>
            obtain ⟨colon', tail, rfl, colonKind'⟩ := exists_cons isColon' (by decide)
            obtain ⟨third, same, stepBound⟩ := bound_of_integer? isStep safeStep
            obtain rfl : tail = third ++ rest := same
            exact ⟨first ++ colon :: (second ++ colon' :: third), by simp,
              .stridedSlice startBound colonKind stopBound colonKind' stepBound⟩
        · cases isStep
          exact ⟨first ++ colon :: second, by simp, .slice startBound colonKind stopBound⟩
  · split at ok
    · cases ok
    · next index =>
        obtain ⟨checkedTerm, isChecked, ok⟩ := bind_eq_ok ok
        cases ok
        obtain ⟨safe, rfl⟩ := Term.index?_eq_ok_iff.mp (checked_eq_ok isChecked)
        obtain ⟨used, rfl, bound⟩ := bound_of_integer? isStart (by simpa using safe)
        exact ⟨used, rfl, .index bound⟩

/-! ## One step of each function -/

theorem shorthand?_eq_some {ts rest : Tokens} {term : Term}
    (isSome : shorthand? ts = some (term, rest)) : ∃ t, ts = t :: rest ∧ Shorthand t term := by
  rw [shorthand?] at isSome
  split at isSome
  · next isName =>
      obtain ⟨t, after, rfl, kind⟩ := exists_cons isName (by decide)
      cases isSome
      exact ⟨t, rfl, .name kind (denotes_text t)⟩
  · next isStar =>
      obtain ⟨t, after, rfl, kind⟩ := exists_cons isStar (by decide)
      cases isSome
      exact ⟨t, rfl, .star kind⟩
  · cases isSome

theorem numberOf_eq_ok {t : Token} {value : Number} (ok : numberOf t = .ok value) :
    t.literal = some (.number value) := by
  rw [numberOf] at ok
  split at ok
  · next literal =>
      cases ok
      exact literal
  · cases ok

/-- The next token is no operator that binds more tightly than `least`. -/
def Rests (least : Nat) (ts : Tokens) : Prop := tighterOperator? least ts = none

/-- What is read as an expression is one whose operators bind more tightly than `least`, and no
    further one follows. No operator binds as tightly as a negation. -/
structure FindsExpression (least : Nat) (ts : Tokens) (e : Expr) (rest : Tokens) : Prop where
  level : least ≤ 3 → Finds (.level least) ts e rest
  operand : 3 ≤ least → Finds .operand ts e rest
  rests : Rests least rest

/-- With this much fuel, whatever is read is a phrase. -/
structure Sound (fuel : Nat) : Prop where
  segments : ∀ {ts rest links}, segments fuel ts = .ok (links, rest) → Finds .segments ts links rest
  bracketed : ∀ {ts rest term}, currentKind ts = .leftBracket → bracketed fuel ts = .ok (term, rest) →
    Finds .bracket ts term rest
  selectors : ∀ {opening missing ts rest terms},
    selectors fuel opening missing ts = .ok (terms, rest) →
      ∃ used closing, ts = used ++ closing :: rest ∧ closing.kind = .rightBracket ∧
        Derives .selectors used terms
  selector : ∀ {ts rest term}, selector fuel ts = .ok (term, rest) → Finds .selector ts term rest
  expression : ∀ {least ts rest e}, expression fuel least ts = .ok (e, rest) →
    FindsExpression least ts e rest
  operators : ∀ {least ts rest left e}, operators fuel least left ts = .ok (e, rest) →
    ∀ {high front}, least ≤ high → high ≤ 3 → Derives (.level high) front left →
      (∀ operator, tighterOperator? least ts = some operator → rank operator ≤ high + 1) →
        Rests least rest ∧ ∃ used, ts = used ++ rest ∧ Derives (.level least) (front ++ used) e
  operand : ∀ {ts rest e}, operand fuel ts = .ok (e, rest) → Finds .operand ts e rest
  arguments : ∀ {ts rest es}, arguments fuel ts = .ok (es, rest) → Finds .arguments ts es rest
  moreArguments : ∀ {ts rest es}, moreArguments fuel ts = .ok (es, rest) →
    Finds .moreArguments ts es rest

namespace Sound

variable {fuel : Nat} {ts rest : Tokens}

theorem segments_succ (sound : Sound fuel) {links : List Term}
    (ok : Parser.segments (fuel + 1) ts = .ok (links, rest)) : Finds .segments ts links rest := by
  rw [Parser.segments] at ok
  split at ok
  · next isDot =>
      obtain ⟨dot, tail, rfl, dotKind⟩ := exists_cons isDot (by decide)
      split at ok
      · next term after isShorthand =>
          obtain ⟨name, same, shorthand⟩ := shorthand?_eq_some isShorthand
          obtain rfl : tail = name :: after := same
          obtain ⟨⟨more, left⟩, isMore, ok⟩ := bind_eq_ok ok
          cases ok
          obtain ⟨used, rfl, derives⟩ := sound.segments isMore
          exact ⟨dot :: name :: used, rfl, .child dotKind shorthand derives⟩
      · cases ok
  · next isDots =>
      obtain ⟨dots, tail, rfl, dotsKind⟩ := exists_cons isDots (by decide)
      split at ok
      · next term after isShorthand =>
          obtain ⟨name, same, shorthand⟩ := shorthand?_eq_some isShorthand
          obtain rfl : tail = name :: after := same
          obtain ⟨⟨more, left⟩, isMore, ok⟩ := bind_eq_ok ok
          cases ok
          obtain ⟨used, rfl, derives⟩ := sound.segments isMore
          exact ⟨dots :: name :: used, rfl, .descendant dotsKind shorthand derives⟩
      · split at ok
        · next isBracket =>
            obtain ⟨⟨term, after⟩, isTerm, ok⟩ := bind_eq_ok ok
            obtain ⟨⟨more, left⟩, isMore, ok⟩ := bind_eq_ok ok
            cases ok
            obtain ⟨first, same, bracket⟩ := sound.bracketed isBracket isTerm
            obtain rfl : tail = first ++ after := same
            obtain ⟨used, rfl, derives⟩ := sound.segments isMore
            exact ⟨dots :: (first ++ used), by simp, .descendants dotsKind bracket derives⟩
        · cases ok
  · next isBracket =>
      obtain ⟨⟨term, after⟩, isTerm, ok⟩ := bind_eq_ok ok
      obtain ⟨⟨more, left⟩, isMore, ok⟩ := bind_eq_ok ok
      cases ok
      obtain ⟨first, rfl, bracket⟩ := sound.bracketed isBracket isTerm
      obtain ⟨used, rfl, derives⟩ := sound.segments isMore
      exact ⟨first ++ used, by simp, .children bracket derives⟩
  · cases ok
    exact ⟨[], rfl, .noSegments⟩

theorem bracketed_succ (sound : Sound fuel) {term : Term} (isBracket : currentKind ts = .leftBracket)
    (ok : Parser.bracketed (fuel + 1) ts = .ok (term, rest)) : Finds .bracket ts term rest := by
  obtain ⟨opening, tail, rfl, openingKind⟩ := exists_cons isBracket (by decide)
  rw [Parser.bracketed] at ok
  obtain ⟨⟨terms, after⟩, areTerms, ok⟩ := bind_eq_ok ok
  cases ok
  obtain ⟨used, closing, same, closingKind, derives⟩ := sound.selectors areTerms
  obtain rfl : tail = used ++ closing :: rest := same
  exact ⟨opening :: (used ++ [closing]), by simp, .enclosed openingKind derives closingKind⟩

theorem selectors_succ (sound : Sound fuel) {opening : Token} {missing : Fault} {terms : List Term}
    (ok : Parser.selectors (fuel + 1) opening missing ts = .ok (terms, rest)) :
    ∃ used closing, ts = used ++ closing :: rest ∧ closing.kind = .rightBracket ∧
      Derives .selectors used terms := by
  rw [Parser.selectors] at ok
  split at ok
  · cases ok
  · obtain ⟨⟨term, after⟩, isTerm, okAfter⟩ := bind_eq_ok ok
    obtain ⟨first, rfl, derives⟩ := sound.selector isTerm
    simp only at okAfter
    split at okAfter
    · next isComma =>
        obtain ⟨comma, tail, rfl, commaKind⟩ := exists_cons isComma (by decide)
        obtain ⟨⟨more, left⟩, areMore, okMore⟩ := bind_eq_ok okAfter
        cases okMore
        obtain ⟨used, closing, same, closingKind, derivesMore⟩ := sound.selectors areMore
        obtain rfl : tail = used ++ closing :: left := same
        exact ⟨first ++ comma :: used, closing, by simp, closingKind,
          .moreSelectors derives commaKind derivesMore⟩
    · next isClosing =>
        obtain ⟨closing, tail, rfl, closingKind⟩ := exists_cons isClosing (by decide)
        cases okAfter
        exact ⟨first, closing, rfl, closingKind, .oneSelector derives⟩
    · cases okAfter
    · cases okAfter

theorem selector_succ (sound : Sound fuel) {term : Term}
    (ok : Parser.selector (fuel + 1) ts = .ok (term, rest)) : Finds .selector ts term rest := by
  rw [Parser.selector] at ok
  split at ok
  · next isString =>
      obtain ⟨t, tail, rfl, kind⟩ := exists_cons isString (by decide)
      cases ok
      exact ⟨[t], rfl, .name kind (denotes_text t)⟩
  · next isStar =>
      obtain ⟨t, tail, rfl, kind⟩ := exists_cons isStar (by decide)
      cases ok
      exact ⟨[t], rfl, .wildcard kind⟩
  · next isQuestion =>
      obtain ⟨question, tail, rfl, kind⟩ := exists_cons isQuestion (by decide)
      obtain ⟨⟨condition, after⟩, isCondition, ok⟩ := bind_eq_ok ok
      obtain ⟨filter, isChecked, ok⟩ := bind_eq_ok ok
      cases ok
      obtain ⟨used, same, derives⟩ := (sound.expression isCondition).level (by decide)
      obtain rfl : tail = used ++ rest := same
      exact ⟨question :: used, rfl, .filter kind derives (checked_eq_ok isChecked)⟩
  · exact indexOrSlice_sound ok
  · exact indexOrSlice_sound ok
  · exact indexOrSlice_sound ok
  · cases ok

/-! ### Operators -/

theorem derives_least {least high : Nat} (le : least ≤ high) {e : Expr}
    (derives : Derives (.level high) ts e) : Derives (.level least) ts e := by
  induction le using Nat.decreasingInduction with
  | of_succ k _ ih => exact .tighter ih
  | self => exact derives

theorem rests_of_three_le {least : Nat} (le : 3 ≤ least) (ts : Tokens) : Rests least ts := by
  refine Option.filter_eq_none_iff.mpr fun operator _ => ?_
  have := rank_le operator
  simp only [decide_eq_true_eq]
  omega

theorem operators_succ (sound : Sound fuel) {least : Nat} {left e : Expr}
    (ok : Parser.operators (fuel + 1) least left ts = .ok (e, rest)) {high : Nat} {front : Tokens}
    (le : least ≤ high) (small : high ≤ 3) (derives : Derives (.level high) front left)
    (next : ∀ operator, tighterOperator? least ts = some operator → rank operator ≤ high + 1) :
    Rests least rest ∧ ∃ used, ts = used ++ rest ∧ Derives (.level least) (front ++ used) e := by
  rw [Parser.operators] at ok
  split at ok
  · next isNone =>
      cases ok
      refine ⟨isNone, [], rfl, ?_⟩
      rw [List.append_nil]
      exact derives_least le derives
  · next operator isSome =>
      obtain ⟨isOperator, tighter⟩ := Option.filter_eq_some_iff.mp isSome
      have positive : least < rank operator := of_decide_eq_true tighter
      have low := next operator isSome
      obtain ⟨sign, tail, rfl⟩ : ∃ sign tail, ts = sign :: tail := by
        cases ts with
        | nil => cases isOperator
        | cons sign tail => exact ⟨sign, tail, rfl⟩
      obtain ⟨⟨right, after⟩, isRight, okRight⟩ := bind_eq_ok ok
      obtain ⟨combined, isCombined, okAll⟩ := bind_eq_ok okRight
      obtain ⟨term, check, rfl⟩ : ∃ term, Term.binary? operator left right = .ok term ∧
          combined = .ofTerm term := by
        rw [combine] at isCombined
        cases check : checked (current (sign :: tail)) (Term.binary? operator left right) with
        | error failure => rw [check] at isCombined; cases isCombined
        | ok term =>
            rw [check] at isCombined
            cases isCombined
            exact ⟨term, checked_eq_ok check, rfl⟩
      have rightSide := sound.expression isRight
      obtain ⟨second, same, derivesRight⟩ := rightSide.level (rank_le operator)
      obtain rfl : tail = second ++ after := same
      -- An operator of rank `r` makes an expression of level `r - 1`, and none that binds more
      -- tightly than `r` follows its right operand.
      obtain ⟨level, isRank⟩ := Nat.exists_eq_add_one.mpr (Nat.zero_lt_of_lt positive)
      rw [isRank] at derivesRight
      have whole : Derives (.level level) (front ++ sign :: second) (.ofTerm term) :=
        .operation (derives_least (by omega) derives) (operatorAt_iff.mpr ⟨isOperator, isRank⟩)
          derivesRight check
      have nextRank : ∀ other, tighterOperator? least after = some other → rank other ≤ level + 1 := by
        intro other isOther
        by_contra larger
        have rests : ¬(rank operator < rank other) := by
          have none := Option.filter_eq_none_iff.mp rightSide.rests other
            (Option.filter_eq_some_iff.mp isOther).1
          simpa using none
        omega
      obtain ⟨rests, used, rfl, derivesAll⟩ :=
        sound.operators okAll (by omega) (by omega) whole nextRank
      refine ⟨rests, sign :: second ++ used, by simp, ?_⟩
      rwa [List.append_assoc, List.cons_append] at derivesAll

theorem expression_succ (sound : Sound fuel) {least : Nat} {e : Expr}
    (ok : Parser.expression (fuel + 1) least ts = .ok (e, rest)) :
    FindsExpression least ts e rest := by
  rw [Parser.expression] at ok
  obtain ⟨⟨left, after⟩, isLeft, okLeft⟩ := bind_eq_ok ok
  obtain ⟨first, rfl, derives⟩ := sound.operand isLeft
  by_cases tight : 3 ≤ least
  · have stops := rests_of_three_le tight after
    obtain ⟨rfl, rfl⟩ : e = left ∧ rest = after := by
      cases fuel with
      | zero => cases okLeft
      | succ fuel =>
          simp only [Parser.operators] at okLeft
          rw [stops] at okLeft
          cases okLeft
          exact ⟨rfl, rfl⟩
    refine ⟨fun le => ⟨first, rfl, ?_⟩, fun _ => ⟨first, rfl, derives⟩, stops⟩
    obtain rfl : least = 3 := by omega
    exact .operand derives
  · obtain ⟨rests, used, rfl, derivesAll⟩ := sound.operators okLeft (show least ≤ 3 by omega) le_rfl
      (.operand derives) (fun operator _ => (rank_le operator).trans (by decide))
    exact ⟨fun _ => ⟨first ++ used, by simp, derivesAll⟩, fun le => absurd le tight, rests⟩

/-! ### Operands and arguments -/

theorem operand_succ (sound : Sound fuel) {e : Expr}
    (ok : Parser.operand (fuel + 1) ts = .ok (e, rest)) : Finds .operand ts e rest := by
  rw [Parser.operand] at ok
  split at ok
  · next isOpening =>
      obtain ⟨opening, tail, rfl, openingKind⟩ := exists_cons isOpening (by decide)
      obtain ⟨⟨inner, after⟩, isInner, ok⟩ := bind_eq_ok ok
      simp only at ok
      split at ok
      · next isClosing =>
          obtain ⟨closing, left, rfl, closingKind⟩ := exists_cons isClosing (by decide)
          cases ok
          obtain ⟨used, same, derives⟩ := (sound.expression isInner).level (by decide)
          obtain rfl : tail = used ++ closing :: left := same
          exact ⟨opening :: (used ++ [closing]), by simp, .group openingKind derives closingKind⟩
      · cases ok
  · next isNot =>
      obtain ⟨sign, tail, rfl, kind⟩ := exists_cons isNot (by decide)
      obtain ⟨⟨inner, after⟩, isInner, ok⟩ := bind_eq_ok ok
      obtain ⟨term, isChecked, ok⟩ := bind_eq_ok ok
      cases ok
      obtain ⟨used, same, derives⟩ := (sound.expression isInner).operand (by decide)
      obtain rfl : tail = used ++ rest := same
      exact ⟨sign :: used, rfl, .negation kind derives (checked_eq_ok isChecked)⟩
  · next isRoot =>
      obtain ⟨sign, tail, rfl, kind⟩ := exists_cons isRoot (by decide)
      obtain ⟨⟨links, after⟩, areLinks, ok⟩ := bind_eq_ok ok
      cases ok
      obtain ⟨used, same, derives⟩ := sound.segments areLinks
      obtain rfl : tail = used ++ rest := same
      exact ⟨sign :: used, rfl, .query (by rw [kind]; rfl) derives⟩
  · next isCurrent =>
      obtain ⟨sign, tail, rfl, kind⟩ := exists_cons isCurrent (by decide)
      obtain ⟨⟨links, after⟩, areLinks, ok⟩ := bind_eq_ok ok
      cases ok
      obtain ⟨used, same, derives⟩ := sound.segments areLinks
      obtain rfl : tail = used ++ rest := same
      exact ⟨sign :: used, rfl, .query (by rw [kind]; rfl) derives⟩
  · next isString =>
      obtain ⟨t, tail, rfl, kind⟩ := exists_cons isString (by decide)
      cases ok
      exact ⟨[t], rfl, .string kind (denotes_text t)⟩
  · next isNumber =>
      obtain ⟨t, tail, rfl, kind⟩ := exists_cons isNumber (by decide)
      obtain ⟨value, isValue, ok⟩ := bind_eq_ok ok
      cases ok
      exact ⟨[t], rfl, .number kind (numberOf_eq_ok isValue)⟩
  · next isMinus =>
      obtain ⟨minus, tail, rfl, sign⟩ := exists_cons isMinus (by decide)
      split at ok
      · next isNumber =>
          obtain ⟨t, left, same, kind⟩ := exists_cons isNumber (by decide)
          obtain rfl : tail = t :: left := same
          obtain ⟨value, isValue, ok⟩ := bind_eq_ok ok
          cases ok
          exact ⟨[minus, t], rfl,
            .negativeNumber sign kind (numberOf_eq_ok isValue) (opposite_negated value)⟩
      · cases ok
  · next isTrue =>
      obtain ⟨t, tail, rfl, kind⟩ := exists_cons isTrue (by decide)
      cases ok
      exact ⟨[t], rfl, .keyword (by rw [kind]; rfl)⟩
  · next isFalse =>
      obtain ⟨t, tail, rfl, kind⟩ := exists_cons isFalse (by decide)
      cases ok
      exact ⟨[t], rfl, .keyword (by rw [kind]; rfl)⟩
  · next isNull =>
      obtain ⟨t, tail, rfl, kind⟩ := exists_cons isNull (by decide)
      cases ok
      exact ⟨[t], rfl, .keyword (by rw [kind]; rfl)⟩
  · next isFunction =>
      obtain ⟨name, tail, rfl, kind⟩ := exists_cons isFunction (by decide)
      split at ok
      · cases ok
      · next function known =>
          split at ok
          · next isOpening =>
              obtain ⟨opening, left, same, openingKind⟩ := exists_cons isOpening (by decide)
              obtain rfl : tail = opening :: left := same
              obtain ⟨⟨es, after⟩, areArguments, ok⟩ := bind_eq_ok ok
              simp only at ok
              split at ok
              · next isClosing =>
                  obtain ⟨closing, more, rfl, closingKind⟩ := exists_cons isClosing (by decide)
                  obtain ⟨term, isChecked, ok⟩ := bind_eq_ok ok
                  cases ok
                  obtain ⟨used, same, derives⟩ := sound.arguments areArguments
                  obtain rfl : left = used ++ closing :: more := same
                  exact ⟨name :: opening :: (used ++ [closing]), by simp,
                    .call kind known openingKind derives closingKind (checked_eq_ok isChecked)⟩
              · cases ok
          · cases ok
  · cases ok
  · cases ok

theorem arguments_succ (sound : Sound fuel) {es : List Expr}
    (ok : Parser.arguments (fuel + 1) ts = .ok (es, rest)) : Finds .arguments ts es rest := by
  rw [Parser.arguments] at ok
  split at ok
  · cases ok
    exact ⟨[], rfl, .noArguments⟩
  · obtain ⟨used, rfl, derives⟩ := sound.moreArguments ok
    exact ⟨used, rfl, .arguments derives⟩

theorem moreArguments_succ (sound : Sound fuel) {es : List Expr}
    (ok : Parser.moreArguments (fuel + 1) ts = .ok (es, rest)) : Finds .moreArguments ts es rest := by
  rw [Parser.moreArguments] at ok
  obtain ⟨⟨e, after⟩, isExpression, okAfter⟩ := bind_eq_ok ok
  obtain ⟨first, rfl, derives⟩ := (sound.expression isExpression).level (by decide)
  simp only at okAfter
  split at okAfter
  · next isComma =>
      obtain ⟨comma, tail, rfl, commaKind⟩ := exists_cons isComma (by decide)
      obtain ⟨⟨more, left⟩, areMore, okMore⟩ := bind_eq_ok okAfter
      cases okMore
      obtain ⟨used, same, derivesMore⟩ := sound.moreArguments areMore
      obtain rfl : tail = used ++ left := same
      exact ⟨first ++ comma :: used, by simp, .nextArgument derives commaKind derivesMore⟩
  · cases okAfter
    exact ⟨first, rfl, .lastArgument derives⟩

end Sound

theorem sound (fuel : Nat) : Sound fuel := by
  induction fuel with
  | zero => constructor <;> intros <;> contradiction
  | succ fuel ih =>
      exact ⟨ih.segments_succ, ih.bracketed_succ, ih.selectors_succ, ih.selector_succ,
        ih.expression_succ, ih.operators_succ, ih.operand_succ, ih.arguments_succ,
        ih.moreArguments_succ⟩

/-! ## Whole queries -/

theorem endFree_of_bound {ts : List Token} {bound : Option Int} (isBound : Bound ts bound) :
    ∀ t ∈ ts, t.kind ≠ .eof := by
  cases isBound with
  | absent => simp
  | present integer safe =>
      cases integer with
      | positive integer => simp [integer.kind]
      | negative sign integer nonzero => simp [sign, integer.kind]

theorem Derives.endFree {phrase : Phrase} {ts : List Token} {result : phrase.Result}
    (derives : Derives phrase ts result) : ∀ t ∈ ts, t.kind ≠ .eof := by
  have shorthandKind : ∀ {t : Token} {term : Term}, Shorthand t term → t.kind ≠ .eof := by
    intro t term shorthand
    cases shorthand with
    | name kind denotes => simp [kind]
    | star kind => simp [kind]
  induction derives with
  | noSegments | noArguments => simp
  | child kind shorthand _ more | descendant kind shorthand _ more =>
      simp only [List.forall_mem_cons]
      exact ⟨by simp [kind], shorthandKind shorthand, more⟩
  | children _ _ bracket more => exact List.forall_mem_append.mpr ⟨bracket, more⟩
  | descendants kind _ _ bracket more =>
      simp only [List.forall_mem_cons, List.forall_mem_append]
      exact ⟨by simp [kind], bracket, more⟩
  | alone openingKind _ closingKind inner | several openingKind _ _ closingKind inner
  | group openingKind _ closingKind inner =>
      simp only [List.forall_mem_cons, List.forall_mem_append]
      exact ⟨by simp [openingKind], inner, by simp [closingKind]⟩
  | moreSelectors _ commaKind _ first more | nextArgument _ commaKind _ first more =>
      simp only [List.forall_mem_cons, List.forall_mem_append]
      exact ⟨first, by simp [commaKind], more⟩
  | name kind | wildcard kind | string kind | number kind => simp [kind]
  | filter kind _ _ inner | negation kind _ _ inner =>
      simp only [List.forall_mem_cons]
      exact ⟨by simp [kind], inner⟩
  | index bound => exact endFree_of_bound bound
  | slice startBound kind stopBound =>
      simp only [List.forall_mem_cons, List.forall_mem_append]
      exact ⟨endFree_of_bound startBound, by simp [kind], endFree_of_bound stopBound⟩
  | stridedSlice startBound kind stopBound kind' stepBound =>
      simp only [List.forall_mem_cons, List.forall_mem_append]
      exact ⟨endFree_of_bound startBound, by simp [kind], endFree_of_bound stopBound,
        by simp [kind'], endFree_of_bound stepBound⟩
  | oneSelector _ inner | operand _ inner | tighter _ inner | arguments _ inner
  | lastArgument _ inner => exact inner
  | operation _ isOperator _ _ left right =>
      simp only [List.forall_mem_cons, List.forall_mem_append]
      refine ⟨left, fun kind => ?_, right⟩
      rw [kind] at isOperator
      cases isOperator
  | query isIdentifier _ links =>
      simp only [List.forall_mem_cons]
      exact ⟨fun kind => by simp [kind, identifier?] at isIdentifier, links⟩
  | negativeNumber sign kind => simp [sign, kind]
  | keyword isKeyword =>
      simp only [List.forall_mem_singleton]
      exact fun kind => by simp [kind, keyword?] at isKeyword
  | call kind _ openingKind _ closingKind _ inner =>
      simp only [List.forall_mem_cons, List.forall_mem_append]
      exact ⟨by simp [kind], by simp [openingKind], inner, by simp [closingKind]⟩

def beforeEnd (ts : Tokens) : Tokens := ts.takeWhile (·.kind != .eof)

/-- The tokens of a query: `$` and the segments behind it. -/
inductive DerivesQuery : List Token → List Term → Prop where
  | query {root : Token} {ts : List Token} {links : List Term} (kind : root.kind = .root)
      (segments : Derives .segments ts links) : DerivesQuery (root :: ts) links

theorem DerivesQuery.endFree {ts : List Token} {links : List Term} (derives : DerivesQuery ts links) :
    ∀ t ∈ ts, t.kind ≠ .eof := by
  cases derives with
  | query kind segments =>
      simp only [List.forall_mem_cons]
      exact ⟨by simp [kind], segments.endFree⟩

theorem beforeEnd_append {ts rest : Tokens} (endFree : ∀ t ∈ ts, t.kind ≠ .eof)
    (ended : currentKind rest = .eof) : beforeEnd (ts ++ rest) = ts := by
  rw [beforeEnd, List.takeWhile_append_of_pos (by simpa using endFree)]
  cases rest with
  | nil => simp
  | cons eof rest => rw [List.takeWhile_cons_of_neg (by simpa using ended), List.append_nil]

theorem exists_beforeEnd (ts : Tokens) : ∃ rest, ts = beforeEnd ts ++ rest ∧ currentKind rest = .eof := by
  refine ⟨ts.dropWhile (·.kind != .eof), List.takeWhile_append_dropWhile.symm, ?_⟩
  have first := List.head?_dropWhile_not (·.kind != .eof) ts
  cases same : ts.dropWhile (·.kind != .eof) with
  | nil => rfl
  | cons eof rest => simpa [same] using first

theorem beforeEnd_concat (ts : Tokens) {eof : Token} (kind : eof.kind = .eof) :
    beforeEnd (ts ++ [eof]) = beforeEnd ts := by
  obtain ⟨rest, same, ended⟩ := exists_beforeEnd ts
  have endFree : ∀ t ∈ beforeEnd ts, t.kind ≠ .eof := by
    intro t isToken
    simpa using List.mem_takeWhile_imp isToken
  have next : currentKind (rest ++ [eof]) = .eof := by
    cases rest with
    | nil => exact kind
    | cons first rest => exact ended
  conv_lhs => rw [same, List.append_assoc]
  exact beforeEnd_append endFree next

theorem beforeEnd_terminated (source : String) (ts : Tokens) :
    beforeEnd (terminated source ts) = beforeEnd ts := by
  rw [terminated]
  split
  · split
    · rfl
    · exact beforeEnd_concat ts rfl
  · next isNone =>
      obtain rfl := List.getLast?_eq_none_iff.mp isNone
      rfl

/-- Reading the tokens of a query gives what the grammar derives from those before the first end
    mark. -/
theorem query_eq_ok_iff {ts : Tokens} {links : List Term} :
    query ts = .ok links ↔ DerivesQuery (beforeEnd ts) links := by
  constructor
  · intro ok
    rw [query] at ok
    split at ok
    · next isRoot =>
        obtain ⟨root, tail, rfl, kind⟩ := exists_cons isRoot (by decide)
        obtain ⟨⟨found, after⟩, isFound, okFound⟩ := bind_eq_ok ok
        simp only at okFound
        split at okFound
        · next isEnd =>
            cases okFound
            obtain ⟨used, same, derives⟩ := (sound _).segments isFound
            obtain rfl : tail = used ++ after := same
            have whole : DerivesQuery (root :: used) links := .query kind derives
            rw [← List.cons_append, beforeEnd_append whole.endFree isEnd]
            exact whole
        · cases okFound
    · cases ok
  · intro derives
    obtain ⟨rest, same, ended⟩ := exists_beforeEnd ts
    rw [same]
    generalize beforeEnd ts = before at derives
    cases derives with
    | query kind segments => exact query_append kind segments ended

end JsonQuery.Parser

namespace JsonQuery

/-- A list of tokens is read as a query exactly if the grammar derives that query from the tokens
    before the first end mark, and it derives no other from them. -/
theorem Query.ofTokens_eq_ok_iff (source : String) (ts : List Token) :
    (∀ q : Query, Query.ofTokens source ts = .ok q ↔
      q.source = source ∧ Parser.DerivesQuery (Parser.beforeEnd ts) q.links) ∧
    ∀ links links', Parser.DerivesQuery (Parser.beforeEnd ts) links →
      Parser.DerivesQuery (Parser.beforeEnd ts) links' → links = links' := by
  have agrees : ∀ links, Parser.query (Parser.terminated source ts) = .ok links ↔
      Parser.DerivesQuery (Parser.beforeEnd ts) links := by
    intro links
    rw [Parser.query_eq_ok_iff, Parser.beforeEnd_terminated]
  constructor
  · intro q
    rw [← agrees, Query.ofTokens]
    constructor
    · intro ok
      split at ok
      · next links isLinks =>
          cases ok
          exact ⟨rfl, isLinks⟩
      · cases ok
    · rintro ⟨rfl, isLinks⟩
      rw [isLinks]
  · intro links links' first second
    exact Except.ok.inj (((agrees links).mpr first).symm.trans ((agrees links').mpr second))

end JsonQuery

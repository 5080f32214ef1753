import JsonQuery.Query.Compile
import JsonQuery.Proofs.ParserSoundness
import JsonQuery.Proofs.TokenContract

/-! # How the parser fails

The budget is enough for every list of tokens, and two faults need tokens that no text has: a minus
sign without a number behind it, and a number without a value. Every other failure is blamed on a
token that was left when the parser gave up.
-/

namespace JsonQuery.Parser

/-- Every minus sign has a number behind it, and every number a value. -/
structure Numbered (all : Tokens) : Prop where
  followed : ∀ {minus rest}, minus :: rest <:+ all → minus.kind = .minus → currentKind rest = .number
  valued : ∀ t ∈ all, t.kind = .number → ∃ value, t.literal = some (.number value)

/-- The faults that numbered tokens cannot have. -/
def impossible : List Fault := [.exhausted, .numberWithoutValue, .missingNumberAfterMinus]

/-- A failure that is possible, blamed on a token that was left at some point. -/
structure Blames (all : Tokens) (failure : Failure) : Prop where
  placed : ∃ us, us <:+ all ∧ failure = .blame (current us) failure.fault
  possible : failure.fault ∉ impossible

/-! ## Steps of a failure -/

theorem bind_eq_error {ε α β : Type} {first : Except ε α} {second : α → Except ε β} {failure : ε}
    (error : first >>= second = .error failure) :
    first = .error failure ∨ ∃ value, first = .ok value ∧ second value = .error failure := by
  cases first with
  | error other =>
      cases error
      exact .inl rfl
  | ok value => exact .inr ⟨value, rfl, error⟩

theorem Finds.suffix {phrase : Phrase} {ts rest : Tokens} {result : phrase.Result}
    (finds : Finds phrase ts result rest) : rest <:+ ts := by
  obtain ⟨used, rfl, _⟩ := finds
  exact List.suffix_append used rest

theorem FindsExpression.suffix {least : Nat} {ts rest : Tokens} {e : Expr}
    (finds : FindsExpression least ts e rest) : rest <:+ ts := by
  rcases le_total least 3 with le | le
  · exact (finds.level le).suffix
  · exact (finds.operand le).suffix

theorem length_lt_of_bracket {ts rest : Tokens} {term : Term} (finds : Finds .bracket ts term rest) :
    rest.length < ts.length := by
  obtain ⟨used, rfl, bracket⟩ := finds
  cases bracket with
  | alone | several =>
      simp only [List.cons_append, List.length_cons, List.length_append]
      omega

section Steps

variable {all ts us : Tokens} {failure : Failure}

theorem tail_suffix (left : ts <:+ all) : ts.tail <:+ all := (List.tail_suffix ts).trans left

theorem length_tail_lt {kind : Token.Kind} (isKind : currentKind ts = kind) (notEnd : kind ≠ .eof) :
    ts.tail.length < ts.length := by
  obtain ⟨t, rest, rfl, _⟩ := exists_cons isKind notEnd
  simp

theorem blames_failAt {α : Type} {fault : Fault} (left : us <:+ all) (possible : fault ∉ impossible)
    (error : (failAt (current us) fault : Except Failure α) = .error failure) :
    Blames all failure := by
  cases error
  exact ⟨⟨us, left, rfl⟩, possible⟩

theorem blames_checked {check : Except Misfit Term} (left : us <:+ all)
    (error : checked (current us) check = .error failure) : Blames all failure := by
  cases check with
  | ok term => cases error
  | error misfit => exact blames_failAt left (by simp [impossible]) error

theorem blames_combine {operator : Operator} {first second : Expr} (left : us <:+ all)
    (error : combine operator (current us) first second = .error failure) : Blames all failure := by
  unfold combine at error
  cases check : checked (current us) (Term.binary? operator first second) with
  | ok term =>
      rw [check] at error
      cases error
  | error other =>
      rw [check] at error
      cases error
      exact blames_checked left check

/-! ## Integers in brackets -/

theorem blames_magnitude {negative : Bool} (left : us <:+ all)
    (error : magnitude negative (current us) = .error failure) : Blames all failure := by
  unfold magnitude at error
  dsimp only at error
  split at error
  · exact blames_failAt left (by simp [impossible]) error
  split at error
  · exact blames_failAt left (by simp [impossible]) error
  split at error
  · exact blames_failAt left (by simp [impossible]) error
  · cases error

theorem blames_signedInteger {negative : Bool} (left : us <:+ all)
    (isNumber : currentKind us = .number) (error : signedInteger negative us = .error failure) :
    Blames all failure := by
  unfold signedInteger at error
  rw [if_pos isNumber] at error
  split at error
  · next isError =>
      cases error
      exact blames_magnitude left isError
  · cases error

theorem blames_integer? (numbered : Numbered all) (left : us <:+ all)
    (error : integer? us = .error failure) : Blames all failure := by
  unfold integer? at error
  split at error
  · next isMinus =>
      obtain ⟨minus, rest, rfl, kind⟩ := exists_cons isMinus (by decide)
      exact blames_signedInteger (tail_suffix left) (numbered.followed left kind) error
  · next isNumber => exact blames_signedInteger left isNumber error
  · cases error

theorem suffix_of_integer? {rest : Tokens} {bound : Option Int}
    (ok : integer? ts = .ok (bound, rest)) : rest <:+ ts := by
  rcases integer?_eq_ok ok with ⟨_, rfl⟩ | ⟨value, used, _, rfl, _⟩
  · exact List.suffix_refl ts
  · exact List.suffix_append used rest

theorem suffix_of_shorthand? {rest : Tokens} {term : Term}
    (isShorthand : shorthand? ts = some (term, rest)) : rest <:+ ts := by
  obtain ⟨name, rfl, _⟩ := shorthand?_eq_some isShorthand
  exact List.suffix_cons name rest

theorem suffix_of_stride? {rest : Tokens} {bound : Option Int}
    (ok : stride? ts = .ok (bound, rest)) : rest <:+ ts := by
  unfold stride? at ok
  split at ok
  · exact (suffix_of_integer? ok).trans (List.tail_suffix ts)
  · cases ok
    exact List.suffix_refl ts

theorem blames_stride? (numbered : Numbered all) (left : us <:+ all)
    (error : stride? us = .error failure) : Blames all failure := by
  unfold stride? at error
  split at error
  · exact blames_integer? numbered (tail_suffix left) error
  · cases error

theorem blames_indexOrSlice (numbered : Numbered all) (left : ts <:+ all)
    (error : indexOrSlice ts = .error failure) : Blames all failure := by
  unfold indexOrSlice at error
  rcases bind_eq_error error with error | ⟨⟨start, afterStart⟩, isStart, error⟩
  · exact blames_integer? numbered left error
  have leftStart := (suffix_of_integer? isStart).trans left
  dsimp only at error
  split at error
  · rcases bind_eq_error error with error | ⟨⟨stop, afterStop⟩, isStop, error⟩
    · exact blames_integer? numbered (tail_suffix leftStart) error
    have leftStop := (suffix_of_integer? isStop).trans (tail_suffix leftStart)
    rcases bind_eq_error error with error | ⟨⟨step, afterStep⟩, isStep, error⟩
    · exact blames_stride? numbered leftStop error
    have leftStep := (suffix_of_stride? isStep).trans leftStop
    dsimp only at error
    split at error
    · exact blames_failAt leftStep (by simp [impossible]) error
    · rcases bind_eq_error error with error | ⟨term, _, error⟩
      · exact blames_checked left error
      · cases error
  · split at error
    · exact blames_failAt leftStart (by simp [impossible]) error
    · rcases bind_eq_error error with error | ⟨term, _, error⟩
      · exact blames_checked left error
      · cases error

theorem numberOf_ne_error (numbered : Numbered all) (left : us <:+ all)
    (isNumber : currentKind us = .number) : numberOf (current us) ≠ .error failure := by
  obtain ⟨t, rest, rfl, kind⟩ := exists_cons isNumber (by decide)
  obtain ⟨value, literal⟩ := numbered.valued t (left.subset List.mem_cons_self) kind
  rw [current_cons, numberOf, literal]
  intro error
  cases error

end Steps

/-! ## One step of each function -/

/-- With enough fuel for the tokens that are left, every failure is possible. -/
structure Steady (all : Tokens) (fuel : Nat) : Prop where
  segments : ∀ {ts failure}, ts <:+ all → 5 * ts.length + 2 ≤ fuel →
    segments fuel ts = .error failure → Blames all failure
  bracketed : ∀ {ts failure}, ts <:+ all → 5 * ts.length + 1 ≤ fuel →
    currentKind ts = .leftBracket → bracketed fuel ts = .error failure → Blames all failure
  selectors : ∀ {us missing ts failure}, us <:+ all → missing ∉ impossible → ts <:+ all →
    5 * ts.length + 2 ≤ fuel → selectors fuel (current us) missing ts = .error failure →
      Blames all failure
  selector : ∀ {ts failure}, ts <:+ all → 5 * ts.length + 1 ≤ fuel →
    selector fuel ts = .error failure → Blames all failure
  expression : ∀ {least ts failure}, ts <:+ all → 5 * ts.length + 2 ≤ fuel →
    expression fuel least ts = .error failure → Blames all failure
  operators : ∀ {least left ts failure}, ts <:+ all → 5 * ts.length + 1 ≤ fuel →
    operators fuel least left ts = .error failure → Blames all failure
  operand : ∀ {ts failure}, ts <:+ all → 5 * ts.length + 1 ≤ fuel →
    operand fuel ts = .error failure → Blames all failure
  arguments : ∀ {ts failure}, ts <:+ all → 5 * ts.length + 4 ≤ fuel →
    arguments fuel ts = .error failure → Blames all failure
  moreArguments : ∀ {ts failure}, ts <:+ all → 5 * ts.length + 3 ≤ fuel →
    moreArguments fuel ts = .error failure → Blames all failure

namespace Steady

variable {all ts : Tokens} {fuel : Nat} {failure : Failure}

theorem segments_succ (steady : Steady all fuel) (left : ts <:+ all)
    (enough : 5 * ts.length + 2 ≤ fuel + 1)
    (error : Parser.segments (fuel + 1) ts = .error failure) : Blames all failure := by
  rw [Parser.segments] at error
  split at error
  · next isDot =>
      have shorter := length_tail_lt isDot (by decide)
      split at error
      · next term rest isShorthand =>
          have suffix := suffix_of_shorthand? isShorthand
          have := suffix.length_le
          rcases bind_eq_error error with error | ⟨⟨more, after⟩, _, error⟩
          · exact steady.segments (suffix.trans (tail_suffix left)) (by omega) error
          · cases error
      · exact blames_failAt (tail_suffix left) (by simp [impossible]) error
  · next isDots =>
      have shorter := length_tail_lt isDots (by decide)
      split at error
      · next term rest isShorthand =>
          have suffix := suffix_of_shorthand? isShorthand
          have := suffix.length_le
          rcases bind_eq_error error with error | ⟨⟨more, after⟩, _, error⟩
          · exact steady.segments (suffix.trans (tail_suffix left)) (by omega) error
          · cases error
      · split at error
        · next isBracket =>
            rcases bind_eq_error error with error | ⟨⟨term, rest⟩, isTerm, error⟩
            · exact steady.bracketed (tail_suffix left) (by omega) isBracket error
            have finds := (sound fuel).bracketed isBracket isTerm
            have := length_lt_of_bracket finds
            rcases bind_eq_error error with error | ⟨⟨more, after⟩, _, error⟩
            · exact steady.segments (finds.suffix.trans (tail_suffix left)) (by omega) error
            · cases error
        · exact blames_failAt (tail_suffix left) (by simp [impossible]) error
  · next isBracket =>
      rcases bind_eq_error error with error | ⟨⟨term, rest⟩, isTerm, error⟩
      · exact steady.bracketed left (by omega) isBracket error
      have finds := (sound fuel).bracketed isBracket isTerm
      have shorter := length_lt_of_bracket finds
      rcases bind_eq_error error with error | ⟨⟨more, after⟩, _, error⟩
      · exact steady.segments (finds.suffix.trans left) (by omega) error
      · cases error
  · cases error

theorem bracketed_succ (steady : Steady all fuel) (left : ts <:+ all)
    (enough : 5 * ts.length + 1 ≤ fuel + 1) (isBracket : currentKind ts = .leftBracket)
    (error : Parser.bracketed (fuel + 1) ts = .error failure) : Blames all failure := by
  have shorter := length_tail_lt isBracket (by decide)
  rw [Parser.bracketed] at error
  rcases bind_eq_error error with error | ⟨⟨terms, rest⟩, _, error⟩
  · exact steady.selectors left (by simp [impossible]) (tail_suffix left) (by omega) error
  · cases error

theorem selectors_succ (steady : Steady all fuel) {us : Tokens} {missing : Fault}
    (opening : us <:+ all) (possible : missing ∉ impossible) (left : ts <:+ all)
    (enough : 5 * ts.length + 2 ≤ fuel + 1)
    (error : Parser.selectors (fuel + 1) (current us) missing ts = .error failure) :
    Blames all failure := by
  rw [Parser.selectors] at error
  split at error
  · exact blames_failAt left possible error
  rcases bind_eq_error error with error | ⟨⟨term, rest⟩, isTerm, error⟩
  · exact steady.selector left (by omega) error
  have suffix := ((sound fuel).selector isTerm).suffix
  have leftRest := suffix.trans left
  dsimp only at error
  split at error
  · next isComma =>
      have shorter := length_tail_lt isComma (by decide)
      have := suffix.length_le
      rcases bind_eq_error error with error | ⟨⟨more, after⟩, _, error⟩
      · exact steady.selectors opening (by simp [impossible]) (tail_suffix leftRest) (by omega) error
      · cases error
  · cases error
  · exact blames_failAt opening (by simp [impossible]) error
  · exact blames_failAt leftRest (by simp [impossible]) error

theorem selector_succ (numbered : Numbered all) (steady : Steady all fuel) (left : ts <:+ all)
    (enough : 5 * ts.length + 1 ≤ fuel + 1)
    (error : Parser.selector (fuel + 1) ts = .error failure) : Blames all failure := by
  rw [Parser.selector] at error
  split at error
  · cases error
  · cases error
  · next isQuestion =>
      have shorter := length_tail_lt isQuestion (by decide)
      rcases bind_eq_error error with error | ⟨⟨condition, rest⟩, _, error⟩
      · exact steady.expression (tail_suffix left) (by omega) error
      rcases bind_eq_error error with error | ⟨term, _, error⟩
      · exact blames_checked left error
      · cases error
  · exact blames_indexOrSlice numbered left error
  · exact blames_indexOrSlice numbered left error
  · exact blames_indexOrSlice numbered left error
  · exact blames_failAt left (by simp [impossible]) error

theorem expression_succ (steady : Steady all fuel) {least : Nat} (left : ts <:+ all)
    (enough : 5 * ts.length + 2 ≤ fuel + 1)
    (error : Parser.expression (fuel + 1) least ts = .error failure) : Blames all failure := by
  rw [Parser.expression] at error
  rcases bind_eq_error error with error | ⟨⟨e, rest⟩, isOperand, error⟩
  · exact steady.operand left (by omega) error
  have suffix := ((sound fuel).operand isOperand).suffix
  have := suffix.length_le
  exact steady.operators (suffix.trans left) (by omega) error

theorem operators_succ (steady : Steady all fuel) {least : Nat} {e : Expr} (left : ts <:+ all)
    (enough : 5 * ts.length + 1 ≤ fuel + 1)
    (error : Parser.operators (fuel + 1) least e ts = .error failure) : Blames all failure := by
  rw [Parser.operators] at error
  split at error
  · cases error
  next operator isOperator =>
  have shorter : ts.tail.length < ts.length := by
    cases ts with
    | nil => cases isOperator
    | cons sign tail => simp
  rcases bind_eq_error error with error | ⟨⟨right, rest⟩, isRight, error⟩
  · exact steady.expression (tail_suffix left) (by omega) error
  have suffix := ((sound fuel).expression isRight).suffix
  have := suffix.length_le
  rcases bind_eq_error error with error | ⟨both, _, error⟩
  · exact blames_combine left error
  · exact steady.operators (suffix.trans (tail_suffix left)) (by omega) error

theorem operand_succ (numbered : Numbered all) (steady : Steady all fuel) (left : ts <:+ all)
    (enough : 5 * ts.length + 1 ≤ fuel + 1)
    (error : Parser.operand (fuel + 1) ts = .error failure) : Blames all failure := by
  rw [Parser.operand] at error
  split at error
  · next isOpening =>
      have shorter := length_tail_lt isOpening (by decide)
      rcases bind_eq_error error with error | ⟨⟨inner, rest⟩, _, error⟩
      · exact steady.expression (tail_suffix left) (by omega) error
      dsimp only at error
      split at error
      · cases error
      · exact blames_failAt left (by simp [impossible]) error
  · next isNot =>
      have shorter := length_tail_lt isNot (by decide)
      rcases bind_eq_error error with error | ⟨⟨inner, rest⟩, _, error⟩
      · exact steady.expression (tail_suffix left) (by omega) error
      rcases bind_eq_error error with error | ⟨term, _, error⟩
      · exact blames_checked left error
      · cases error
  · next isRoot =>
      have shorter := length_tail_lt isRoot (by decide)
      rcases bind_eq_error error with error | ⟨⟨links, rest⟩, _, error⟩
      · exact steady.segments (tail_suffix left) (by omega) error
      · cases error
  · next isCurrent =>
      have shorter := length_tail_lt isCurrent (by decide)
      rcases bind_eq_error error with error | ⟨⟨links, rest⟩, _, error⟩
      · exact steady.segments (tail_suffix left) (by omega) error
      · cases error
  · cases error
  · next isNumber =>
      rcases bind_eq_error error with error | ⟨value, _, error⟩
      · exact absurd error (numberOf_ne_error numbered left isNumber)
      · cases error
  · next isMinus =>
      obtain ⟨minus, tail, rfl, kind⟩ := exists_cons isMinus (by decide)
      have isNumber : currentKind tail = .number := numbered.followed left kind
      rw [List.tail_cons, if_pos isNumber] at error
      rcases bind_eq_error error with error | ⟨value, _, error⟩
      · exact absurd error (numberOf_ne_error numbered (tail_suffix left) isNumber)
      · cases error
  · cases error
  · cases error
  · cases error
  · next isFunction =>
      have shorter := length_tail_lt isFunction (by decide)
      split at error
      · exact blames_failAt left (by simp [impossible]) error
      split at error
      · next isOpening =>
          have := length_tail_lt isOpening (by decide)
          rcases bind_eq_error error with error | ⟨⟨es, rest⟩, areArguments, error⟩
          · exact steady.arguments (tail_suffix (tail_suffix left)) (by omega) error
          have suffix := ((sound fuel).arguments areArguments).suffix
          dsimp only at error
          split at error
          · rcases bind_eq_error error with error | ⟨term, _, error⟩
            · exact blames_checked left error
            · cases error
          · exact blames_failAt (suffix.trans (tail_suffix (tail_suffix left)))
              (by simp [impossible]) error
      · exact blames_failAt (tail_suffix left) (by simp [impossible]) error
  · exact blames_failAt left (by simp [impossible]) error
  · exact blames_failAt left (by simp [impossible]) error

theorem arguments_succ (steady : Steady all fuel) (left : ts <:+ all)
    (enough : 5 * ts.length + 4 ≤ fuel + 1)
    (error : Parser.arguments (fuel + 1) ts = .error failure) : Blames all failure := by
  rw [Parser.arguments] at error
  split at error
  · cases error
  · exact steady.moreArguments left (by omega) error

theorem moreArguments_succ (steady : Steady all fuel) (left : ts <:+ all)
    (enough : 5 * ts.length + 3 ≤ fuel + 1)
    (error : Parser.moreArguments (fuel + 1) ts = .error failure) : Blames all failure := by
  rw [Parser.moreArguments] at error
  rcases bind_eq_error error with error | ⟨⟨e, rest⟩, isExpression, error⟩
  · exact steady.expression left (by omega) error
  have suffix := ((sound fuel).expression isExpression).suffix
  dsimp only at error
  split at error
  · next isComma =>
      have shorter := length_tail_lt isComma (by decide)
      have := suffix.length_le
      rcases bind_eq_error error with error | ⟨⟨more, after⟩, _, error⟩
      · exact steady.moreArguments (tail_suffix (suffix.trans left)) (by omega) error
      · cases error
  · cases error

end Steady

theorem steady {all : Tokens} (numbered : Numbered all) (fuel : Nat) : Steady all fuel := by
  induction fuel with
  | zero => constructor <;> intros <;> omega
  | succ fuel ih =>
      exact ⟨ih.segments_succ, ih.bracketed_succ, ih.selectors_succ, ih.selector_succ numbered,
        ih.expression_succ, ih.operators_succ, ih.operand_succ numbered, ih.arguments_succ,
        ih.moreArguments_succ⟩

/-- A query of numbered tokens fails only for a possible reason. -/
theorem blames_query {all : Tokens} {failure : Failure} (numbered : Numbered all)
    (error : query all = .error failure) : Blames all failure := by
  unfold query at error
  split at error
  · rcases bind_eq_error error with error | ⟨⟨links, rest⟩, areLinks, error⟩
    · refine (steady numbered _).segments (List.tail_suffix all) ?_ error
      rw [budget, List.length_tail]
      omega
    dsimp only at error
    split at error
    · cases error
    · have shorter := ((sound _).segments areLinks).suffix
      exact blames_failAt (shorter.trans (List.tail_suffix all)) (by simp [impossible]) error
  · exact blames_failAt (List.suffix_refl all) (by simp [impossible]) error

/-! ## What the reports say -/

/-- The reports on a minus sign without a number and on a number that is too large. -/
def reserved : List String := ["expected a number after `-`", "number out of range"]

theorem append_ne {front text : String} (rest : String)
    (apart : front.toList.isPrefixOf text.toList = false) : front ++ rest ≠ text := by
  rintro rfl
  have begins : front.toList <+: (front ++ rest).toList := by
    rw [String.toList_append]
    exact List.prefix_append _ _
  rw [List.isPrefixOf_iff_prefix.mpr begins] at apart
  cases apart

theorem append_notMem_reserved {front : String} (rest : String)
    (apart : ∀ text ∈ reserved, front.toList.isPrefixOf text.toList = false) :
    front ++ rest ∉ reserved := by
  intro isReserved
  exact append_ne rest (apart _ isReserved) rfl

theorem message_misfit_notMem_reserved (reason : Misfit) : reason.message ∉ reserved := by
  cases reason with
  | constantComparison => decide +kernel
  | unsafeInteger place =>
      unfold Misfit.message
      simp only [String.append_assoc]
      cases place <;> exact append_notMem_reserved _ (by decide +kernel)
  | notCondition | notComparable | notLogical | notNegatable | tooManyArguments | tooFewArguments
  | wrongArgument =>
      unfold Misfit.message
      simp only [String.append_assoc]
      exact append_notMem_reserved _ (by decide +kernel)

theorem message_notMem_reserved {fault : Fault} (possible : fault ∉ impossible) :
    fault.message ∉ reserved := by
  cases fault with
  | misfit reason => exact message_misfit_notMem_reserved reason
  | exhausted | numberWithoutValue | missingNumberAfterMinus => exact absurd possible (by decide)
  | emptyBrackets | trailingComma | unclosedBracket | missingIndex | tooManyBounds
  | negativeZero => decide +kernel
  | missingRoot | trailing | missingNameAfterDot | missingSelectorAfterDots | missingSeparator
  | notSelector | notInteger | integerTooLarge | unbalancedParenthesis | bareName | notExpression
  | unknownFunction | missingArguments | unclosedArguments =>
      unfold Fault.message
      simp only [String.append_assoc]
      exact append_notMem_reserved _ (by decide +kernel)

theorem kind_ne_internal {fault : Fault} (possible : fault ∉ impossible) :
    fault.kind ≠ .internal := by
  intro same
  cases fault with
  | exhausted | numberWithoutValue => exact possible (by decide)
  | misfit reason => cases reason <;> cases same
  | _ => cases same

/-! ## Tokens of a text -/

/-- A number without a sign, which a minus sign in front turns into its exact opposite. -/
def Foldable : Number → Prop
  | .int value => 0 ≤ value ∧ value < Number.signedLimit ∧ negated (.int value) = .int (-value)
  | .float value => value.negative = false ∧ negated (.float value) = .float value.neg

theorem foldable_of_carries {kind : Token.Kind} {chars : List Char} {value : Number}
    (carries : Token.Carries kind chars (some (.number value))) : Foldable value := by
  cases carries with
  | integer nonempty all fits =>
      have least : (Text.decimalValue chars : Int) ≠ Number.leastInt := by
        simp only [Number.leastInt]
        omega
      refine ⟨Int.natCast_nonneg _, fits, ?_⟩
      rw [negated, if_neg least, if_pos fits]
  | double other unsigned => exact ⟨unsigned, rfl⟩

theorem numbered_of_suited {text : List Char} {ts : List Token} (suited : Token.Suited text ts) :
    Numbered ts where
  followed := by
    intro minus rest left isMinus
    obtain ⟨before, same, _⟩ := suited.ended
    have chain := suited.joined.suffix left
    cases rest with
    | nil =>
        have isLast : [minus] <:+ [Token.endAt text.length] :=
          List.suffix_of_suffix_length_le left (same ▸ List.suffix_append _ _) le_rfl
        obtain rfl : minus = Token.endAt text.length := by simpa using isLast.eq_of_length rfl
        cases isMinus
    | cons next rest =>
        obtain ⟨joined, _⟩ := List.isChain_cons_cons.mp chain
        exact (joined.minus isMinus).1
  valued := by
    intro t isToken isNumber
    have carries := suited.carried t isToken
    rw [isNumber] at carries
    generalize t.literal = literal at carries
    cases carries with
    | integer => exact ⟨_, rfl⟩
    | double => exact ⟨_, rfl⟩
    | nothing notNumber => exact absurd rfl notNumber

theorem terminated_of_suited {text : List Char} {ts : List Token} (suited : Token.Suited text ts)
    (source : String) : terminated source ts = ts := by
  obtain ⟨before, rfl, _⟩ := suited.ended
  simp [terminated, Token.endAt]

end JsonQuery.Parser

namespace JsonQuery

theorem Token.exists_misread {source : String} {d : Diagnostic}
    (error : Token.ofQuery source = .error d) :
    ∃ m : Token.Misread, d = m.diagnostic source := by
  unfold Token.ofQuery at error
  cases read : Token.ofChars source.toList with
  | error m =>
      rw [read] at error
      cases error
      exact ⟨m, rfl⟩
  | ok us =>
      rw [read] at error
      cases error

theorem Token.suited_of_ofQuery {source : String} {ts : List Token}
    (ok : Token.ofQuery source = .ok ts) : Token.Suited source.toList ts := by
  unfold Token.ofQuery at ok
  cases read : Token.ofChars source.toList with
  | error misread =>
      rw [read] at ok
      cases ok
  | ok us =>
      rw [read] at ok
      cases ok
      exact Token.suited_of_ofChars read

/-- The parser reports only what it can blame on the tokens of a text. -/
theorem Query.blames_of_ofTokens {source : String} {ts : List Token} {d : Diagnostic}
    (suited : Token.Suited source.toList ts) (error : Query.ofTokens source ts = .error d) :
    ∃ failure, Parser.Blames ts failure ∧ d = failure.diagnostic source := by
  unfold Query.ofTokens at error
  rw [Parser.terminated_of_suited suited] at error
  split at error
  · cases error
  · next failure isError =>
      cases error
      exact ⟨failure, Parser.blames_query (Parser.numbered_of_suited suited) isError, rfl⟩

theorem Token.Fault.kind_ne_internal (fault : Token.Fault) : fault.kind ≠ .internal := by
  intro same
  cases fault <;> cases same

theorem Token.Fault.message_ne (fault : Token.Fault) :
    fault.message ≠ "expected a number after `-`" := by
  cases fault with
  | unexpectedCharacter | incompleteOperator | blankBeforeArguments | escapedOtherQuote
  | unknownEscape | controlCharacter =>
      unfold Token.Fault.message
      simp only [String.append_assoc]
      exact Parser.append_ne _ (by decide +kernel)
  | _ => decide +kernel

/-- The tokens of a text are what the parser takes for granted: only the last one is an end mark, a
    number stands directly behind every minus sign and a parenthesis behind every function, and
    numbers and strings come with their values. So no text makes the parser fail for a reason of its
    own, miss a number behind a minus sign, or fold a sign into a number it does not fit. -/
theorem Query.tokens_suit_parser (source : String) :
    (∀ ts, Token.ofQuery source = .ok ts → Token.Suited source.toList ts ∧
      (∀ t ∈ ts, ∀ value, t.literal = some (.number value) → Parser.Foldable value) ∧
      ∀ d, Query.compile source = .error d → d.message ≠ "number out of range") ∧
    ∀ d, Query.compile source = .error d →
      d.kind ≠ .internal ∧ d.message ≠ "expected a number after `-`" := by
  constructor
  · intro ts ok
    have suited := Token.suited_of_ofQuery ok
    refine ⟨suited, ?_, ?_⟩
    · intro t isToken value literal
      have carries := suited.carried t isToken
      rw [literal] at carries
      exact Parser.foldable_of_carries carries
    · intro d error
      rw [compile, ok] at error
      obtain ⟨failure, blames, rfl⟩ := blames_of_ofTokens suited error
      intro same
      apply Parser.message_notMem_reserved blames.possible
      simp only [Parser.reserved, ← same, Parser.Failure.diagnostic, List.mem_cons, true_or, or_true]
  · intro d error
    cases read : Token.ofQuery source with
    | error other =>
        rw [compile, read] at error
        cases error
        obtain ⟨m, rfl⟩ := Token.exists_misread read
        exact ⟨m.fault.kind_ne_internal, m.fault.message_ne⟩
    | ok ts =>
        rw [compile, read] at error
        obtain ⟨failure, blames, rfl⟩ := blames_of_ofTokens (Token.suited_of_ofQuery read) error
        refine ⟨Parser.kind_ne_internal blames.possible, ?_⟩
        intro same
        apply Parser.message_notMem_reserved blames.possible
        simp only [Parser.reserved, ← same, Parser.Failure.diagnostic, List.mem_cons, true_or]

end JsonQuery

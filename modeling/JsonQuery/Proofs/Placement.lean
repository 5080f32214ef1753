import JsonQuery.Proofs.ParserFailures

/-! # The parser does not look at places

Two lists of the same tokens, wherever they stand, are read as the same query or fail for the same
reason. Only the place of the report differs.
-/

namespace JsonQuery

/-- The same token at the start of the text. -/
def Token.unplaced (t : Token) : Token := { t with span := ⟨0, 0⟩ }

namespace Parser

/-- The same tokens, wherever they stand. -/
def Alike (ts us : Tokens) : Prop := ts.map Token.unplaced = us.map Token.unplaced

/-- Either both are read, as what `same` relates, or both fail for the same reason. -/
inductive Agree {α β : Type} (same : α → β → Prop) : Except Failure α → Except Failure β → Prop where
  | ok {a : α} {b : β} (isSame : same a b) : Agree same (.ok a) (.ok b)
  | error {f g : Failure} (isFault : f.fault = g.fault) : Agree same (.error f) (.error g)

/-- The same result, in front of the same tokens. -/
def SameRest {α : Type} (x y : α × Tokens) : Prop := x.1 = y.1 ∧ Alike x.2 y.2

theorem Agree.bind {α β γ δ : Type} {same : α → β → Prop} {same' : γ → δ → Prop}
    {first : Except Failure α} {first' : Except Failure β} {second : α → Except Failure γ}
    {second' : β → Except Failure δ} (agree : Agree same first first')
    (next : ∀ a b, same a b → Agree same' (second a) (second' b)) :
    Agree same' (first >>= second) (first' >>= second') := by
  cases agree with
  | ok isSame => exact next _ _ isSame
  | error isFault => exact .error isFault

theorem Agree.next {α γ δ : Type} {same : γ → δ → Prop} {first first' : Except Failure (α × Tokens)}
    {second : α × Tokens → Except Failure γ} {second' : α × Tokens → Except Failure δ}
    (agree : Agree SameRest first first')
    (next : ∀ a rest rest', Alike rest rest' → Agree same (second (a, rest)) (second' (a, rest'))) :
    Agree same (first >>= second) (first' >>= second') := by
  apply agree.bind
  rintro ⟨a, rest⟩ ⟨b, rest'⟩ ⟨isSame, alike⟩
  obtain rfl : a = b := isSame
  exact next a rest rest' alike

theorem Agree.done {α : Type} (a : α) {rest rest' : Tokens} (alike : Alike rest rest') :
    Agree SameRest (.ok (a, rest)) (.ok (a, rest')) := .ok ⟨rfl, alike⟩

theorem Agree.failAt {α β : Type} {same : α → β → Prop} (t u : Token) (fault : Fault) :
    Agree same (failAt t fault) (failAt u fault) := .error rfl

/-! ## The next token -/

namespace Alike

variable {ts us : Tokens} (alike : Alike ts us)
include alike

theorem unplaced : (current ts).unplaced = (current us).unplaced := by
  cases ts with
  | nil =>
      obtain rfl : us = [] := List.map_eq_nil_iff.mp alike.symm
      rfl
  | cons t ts =>
      cases us with
      | nil => cases alike
      | cons u us => exact (List.cons.inj alike).1

theorem current {β : Type} (part : Token → β) (keeps : ∀ t, part t.unplaced = part t) :
    part (current ts) = part (current us) := by
  rw [← keeps, alike.unplaced, keeps]

theorem kind : currentKind ts = currentKind us := alike.current Token.kind fun _ => rfl

theorem lexeme : (Parser.current ts).lexeme = (Parser.current us).lexeme :=
  alike.current Token.lexeme fun _ => rfl

theorem literal : (Parser.current ts).literal = (Parser.current us).literal :=
  alike.current Token.literal fun _ => rfl

theorem text : (Parser.current ts).text = (Parser.current us).text :=
  alike.current Token.text fun _ => rfl

theorem found : Found.ofToken (Parser.current ts) = Found.ofToken (Parser.current us) :=
  alike.current Found.ofToken fun _ => rfl

theorem tail : Alike ts.tail us.tail := by
  unfold Alike
  rw [List.map_tail, List.map_tail, alike]

theorem length : ts.length = us.length := by
  simpa using congrArg List.length alike

theorem unexpected {α β : Type} {same : α → β → Prop} (fault : Found → Fault) :
    Agree same (Parser.unexpected ts fault) (Parser.unexpected us fault) :=
  .error (congrArg fault alike.found)

end Alike

/-! ## Parts of the parser -/

section Parts

variable {ts us : Tokens}

theorem agree_checked (t u : Token) (check : Except Misfit Term) :
    Agree (· = ·) (checked t check) (checked u check) := by
  cases check with
  | ok term => exact .ok rfl
  | error misfit => exact .failAt t u _

theorem agree_combine (t u : Token) (operator : Operator) (left right : Expr) :
    Agree (· = ·) (combine operator t left right) (combine operator u left right) := by
  unfold combine
  cases Term.binary? operator left right with
  | ok term => exact .ok rfl
  | error misfit => exact .failAt t u _

theorem agree_magnitude (alike : Alike ts us) (negative : Bool) :
    Agree (· = ·) (magnitude negative (current ts)) (magnitude negative (current us)) := by
  unfold magnitude
  rw [alike.lexeme]
  dsimp only
  split
  · exact .failAt _ _ _
  split
  · exact .failAt _ _ _
  split
  · exact .failAt _ _ _
  · exact .ok rfl

theorem agree_signedInteger (alike : Alike ts us) (negative : Bool) :
    Agree SameRest (signedInteger negative ts) (signedInteger negative us) := by
  have agree := agree_magnitude alike negative
  unfold signedInteger
  rw [← alike.kind]
  generalize magnitude negative (current ts) = first at agree
  generalize magnitude negative (current us) = second at agree
  split
  · cases agree with
    | ok isSame =>
        cases isSame
        exact .done _ alike.tail
    | error isFault => exact .error isFault
  · exact .failAt _ _ _

theorem agree_integer? (alike : Alike ts us) : Agree SameRest (integer? ts) (integer? us) := by
  unfold integer?
  rw [← alike.kind]
  cases currentKind ts with
  | minus => exact agree_signedInteger alike.tail true
  | number => exact agree_signedInteger alike false
  | _ => exact .done none alike

theorem agree_stride? (alike : Alike ts us) : Agree SameRest (stride? ts) (stride? us) := by
  unfold stride?
  rw [← alike.kind]
  split
  · exact agree_integer? alike.tail
  · exact .done none alike

theorem agree_indexOrSlice (alike : Alike ts us) :
    Agree SameRest (indexOrSlice ts) (indexOrSlice us) := by
  unfold indexOrSlice
  apply (agree_integer? alike).next
  intro start rest rest' alikeStart
  dsimp only
  rw [← alikeStart.kind]
  split
  · apply (agree_integer? alikeStart.tail).next
    intro stop rest rest' alikeStop
    apply (agree_stride? alikeStop).next
    intro step rest rest' alikeStep
    dsimp only
    rw [← alikeStep.kind]
    split
    · exact .failAt _ _ _
    · apply (agree_checked (current ts) (current us) _).bind
      rintro term _ rfl
      exact .done term alikeStep
  · cases start with
    | none => exact .failAt _ _ _
    | some index =>
        apply (agree_checked (current ts) (current us) _).bind
        rintro term _ rfl
        exact .done term alikeStart

theorem agree_numberOf (alike : Alike ts us) :
    Agree (· = ·) (numberOf (current ts)) (numberOf (current us)) := by
  unfold numberOf
  rw [alike.literal]
  split
  · exact .ok rfl
  · exact .failAt _ _ _

theorem shorthand?_of_alike (alike : Alike ts us) :
    (shorthand? ts = none ∧ shorthand? us = none) ∨
      ∃ term rest rest', shorthand? ts = some (term, rest) ∧ shorthand? us = some (term, rest') ∧
        Alike rest rest' := by
  unfold shorthand?
  rw [← alike.kind, ← alike.text]
  cases currentKind ts with
  | identifier => exact .inr ⟨_, _, _, rfl, rfl, alike.tail⟩
  | star => exact .inr ⟨_, _, _, rfl, rfl, alike.tail⟩
  | _ => exact .inl ⟨rfl, rfl⟩

end Parts

/-! ## One step of each function -/

/-- With this much fuel, the places of the tokens make no difference. -/
structure Placeless (fuel : Nat) : Prop where
  segments : ∀ {ts us}, Alike ts us → Agree SameRest (segments fuel ts) (segments fuel us)
  bracketed : ∀ {ts us}, Alike ts us → Agree SameRest (bracketed fuel ts) (bracketed fuel us)
  selectors : ∀ {ts us} (t u : Token) (missing : Fault), Alike ts us →
    Agree SameRest (selectors fuel t missing ts) (selectors fuel u missing us)
  selector : ∀ {ts us}, Alike ts us → Agree SameRest (selector fuel ts) (selector fuel us)
  expression : ∀ {ts us} (least : Nat), Alike ts us →
    Agree SameRest (expression fuel least ts) (expression fuel least us)
  operators : ∀ {ts us} (least : Nat) (left : Expr), Alike ts us →
    Agree SameRest (operators fuel least left ts) (operators fuel least left us)
  operand : ∀ {ts us}, Alike ts us → Agree SameRest (operand fuel ts) (operand fuel us)
  arguments : ∀ {ts us}, Alike ts us → Agree SameRest (arguments fuel ts) (arguments fuel us)
  moreArguments : ∀ {ts us}, Alike ts us →
    Agree SameRest (moreArguments fuel ts) (moreArguments fuel us)

namespace Placeless

variable {fuel : Nat} {ts us : Tokens}

theorem segments_succ (placeless : Placeless fuel) (alike : Alike ts us) :
    Agree SameRest (Parser.segments (fuel + 1) ts) (Parser.segments (fuel + 1) us) := by
  rw [Parser.segments, Parser.segments, ← alike.kind]
  cases currentKind ts with
  | dot =>
      rcases shorthand?_of_alike alike.tail with
        ⟨isNone, isNone'⟩ | ⟨term, rest, rest', isSome, isSome', alikeRest⟩
      · simp only [isNone, isNone']
        exact alike.tail.unexpected _
      · simp only [isSome, isSome']
        apply (placeless.segments alikeRest).next
        intro more rest rest' alikeMore
        exact .done _ alikeMore
  | doubleDot =>
      rcases shorthand?_of_alike alike.tail with
        ⟨isNone, isNone'⟩ | ⟨term, rest, rest', isSome, isSome', alikeRest⟩
      · simp only [isNone, isNone', ← alike.tail.kind]
        split
        · apply (placeless.bracketed alike.tail).next
          intro term rest rest' alikeRest
          apply (placeless.segments alikeRest).next
          intro more rest rest' alikeMore
          exact .done _ alikeMore
        · exact alike.tail.unexpected _
      · simp only [isSome, isSome']
        apply (placeless.segments alikeRest).next
        intro more rest rest' alikeMore
        exact .done _ alikeMore
  | leftBracket =>
      apply (placeless.bracketed alike).next
      intro term rest rest' alikeRest
      apply (placeless.segments alikeRest).next
      intro more rest rest' alikeMore
      exact .done _ alikeMore
  | _ => exact .done [] alike

theorem bracketed_succ (placeless : Placeless fuel) (alike : Alike ts us) :
    Agree SameRest (Parser.bracketed (fuel + 1) ts) (Parser.bracketed (fuel + 1) us) := by
  rw [Parser.bracketed, Parser.bracketed]
  apply (placeless.selectors _ _ _ alike.tail).next
  intro terms rest rest' alikeRest
  exact .done _ alikeRest

theorem selectors_succ (placeless : Placeless fuel) (t u : Token) (missing : Fault)
    (alike : Alike ts us) :
    Agree SameRest (Parser.selectors (fuel + 1) t missing ts)
      (Parser.selectors (fuel + 1) u missing us) := by
  rw [Parser.selectors, Parser.selectors, ← alike.kind]
  split
  · exact .failAt _ _ _
  apply (placeless.selector alike).next
  intro term rest rest' alikeRest
  dsimp only
  rw [← alikeRest.kind]
  cases currentKind rest with
  | comma =>
      apply (placeless.selectors t u _ alikeRest.tail).next
      intro more rest rest' alikeMore
      exact .done _ alikeMore
  | rightBracket => exact .done _ alikeRest.tail
  | eof => exact .failAt t u _
  | _ => exact alikeRest.unexpected _

theorem selector_succ (placeless : Placeless fuel) (alike : Alike ts us) :
    Agree SameRest (Parser.selector (fuel + 1) ts) (Parser.selector (fuel + 1) us) := by
  rw [Parser.selector, Parser.selector, ← alike.kind, ← alike.text]
  cases currentKind ts with
  | string => exact .done _ alike.tail
  | star => exact .done _ alike.tail
  | question =>
      apply (placeless.expression 0 alike.tail).next
      intro condition rest rest' alikeRest
      apply (agree_checked _ _ _).bind
      rintro term _ rfl
      exact .done term alikeRest
  | number => exact agree_indexOrSlice alike
  | minus => exact agree_indexOrSlice alike
  | colon => exact agree_indexOrSlice alike
  | _ => exact alike.unexpected _

theorem expression_succ (placeless : Placeless fuel) (least : Nat) (alike : Alike ts us) :
    Agree SameRest (Parser.expression (fuel + 1) least ts)
      (Parser.expression (fuel + 1) least us) := by
  rw [Parser.expression, Parser.expression]
  apply (placeless.operand alike).next
  intro left rest rest' alikeRest
  exact placeless.operators least left alikeRest

theorem operators_succ (placeless : Placeless fuel) (least : Nat) (left : Expr)
    (alike : Alike ts us) :
    Agree SameRest (Parser.operators (fuel + 1) least left ts)
      (Parser.operators (fuel + 1) least left us) := by
  rw [Parser.operators, Parser.operators, tighterOperator?, tighterOperator?, ← alike.kind]
  cases (operator? (currentKind ts)).filter fun operator => least < rank operator with
  | none => exact .done left alike
  | some operator =>
      apply (placeless.expression _ alike.tail).next
      intro right rest rest' alikeRest
      apply (agree_combine _ _ operator left right).bind
      rintro both _ rfl
      exact placeless.operators least both alikeRest

theorem operand_succ (placeless : Placeless fuel) (alike : Alike ts us) :
    Agree SameRest (Parser.operand (fuel + 1) ts) (Parser.operand (fuel + 1) us) := by
  rw [Parser.operand, Parser.operand, ← alike.kind, ← alike.text, ← alike.lexeme]
  cases currentKind ts with
  | leftParen =>
      apply (placeless.expression 0 alike.tail).next
      intro inner rest rest' alikeRest
      dsimp only
      rw [← alikeRest.kind, ← alikeRest.found]
      split
      · exact .done _ alikeRest.tail
      · exact .failAt _ _ _
  | not =>
      apply (placeless.expression _ alike.tail).next
      intro inner rest rest' alikeRest
      apply (agree_checked _ _ _).bind
      rintro term _ rfl
      exact .done _ alikeRest
  | root =>
      apply (placeless.segments alike.tail).next
      intro links rest rest' alikeRest
      exact .done _ alikeRest
  | current =>
      apply (placeless.segments alike.tail).next
      intro links rest rest' alikeRest
      exact .done _ alikeRest
  | string => exact .done _ alike.tail
  | number =>
      apply (agree_numberOf alike).bind
      rintro value _ rfl
      exact .done _ alike.tail
  | minus =>
      dsimp only
      rw [← alike.tail.kind]
      split
      · apply (agree_numberOf alike.tail).bind
        rintro value _ rfl
        exact .done _ alike.tail.tail
      · exact .failAt _ _ _
  | true => exact .done _ alike.tail
  | false => exact .done _ alike.tail
  | null => exact .done _ alike.tail
  | function =>
      cases Function.ofName? (current ts).lexeme with
      | none => exact .failAt _ _ _
      | some function =>
          dsimp only
          rw [← alike.tail.kind]
          split
          · apply (placeless.arguments alike.tail.tail).next
            intro es rest rest' alikeRest
            dsimp only
            rw [← alikeRest.kind]
            split
            · apply (agree_checked _ _ _).bind
              rintro term _ rfl
              exact .done _ alikeRest.tail
            · exact alikeRest.unexpected _
          · exact alike.tail.unexpected _
  | identifier => exact alike.unexpected _
  | _ => exact alike.unexpected _

theorem arguments_succ (placeless : Placeless fuel) (alike : Alike ts us) :
    Agree SameRest (Parser.arguments (fuel + 1) ts) (Parser.arguments (fuel + 1) us) := by
  rw [Parser.arguments, Parser.arguments, ← alike.kind]
  split
  · exact .done [] alike
  · exact placeless.moreArguments alike

theorem moreArguments_succ (placeless : Placeless fuel) (alike : Alike ts us) :
    Agree SameRest (Parser.moreArguments (fuel + 1) ts) (Parser.moreArguments (fuel + 1) us) := by
  rw [Parser.moreArguments, Parser.moreArguments]
  apply (placeless.expression 0 alike).next
  intro e rest rest' alikeRest
  dsimp only
  rw [← alikeRest.kind]
  split
  · apply (placeless.moreArguments alikeRest.tail).next
    intro more rest rest' alikeMore
    exact .done _ alikeMore
  · exact .done _ alikeRest

end Placeless

theorem placeless (fuel : Nat) : Placeless fuel := by
  induction fuel with
  | zero => constructor <;> intros <;> exact .failAt _ _ _
  | succ fuel ih =>
      exact ⟨ih.segments_succ, ih.bracketed_succ, ih.selectors_succ, ih.selector_succ,
        ih.expression_succ, ih.operators_succ, ih.operand_succ, ih.arguments_succ,
        ih.moreArguments_succ⟩

theorem agree_query {ts us : Tokens} (alike : Alike ts us) :
    Agree (· = ·) (query ts) (query us) := by
  unfold query budget
  rw [← alike.kind, ← alike.length]
  split
  · apply ((placeless _).segments alike.tail).next
    intro links rest rest' alikeRest
    dsimp only
    rw [← alikeRest.kind]
    split
    · exact .ok rfl
    · exact alikeRest.unexpected _
  · exact alike.unexpected _

end Parser

namespace Query

/-- Two texts are compiled to the same chain, or rejected with the same words. -/
inductive SameOutcome : Except Diagnostic Query → Except Diagnostic Query → Prop where
  | ok {p q : Query} (links : p.links = q.links) : SameOutcome (.ok p) (.ok q)
  | error {d e : Diagnostic} (kind : d.kind = e.kind) (message : d.message = e.message) :
      SameOutcome (.error d) (.error e)

theorem sameOutcome_of_alike {text text' : List Char} {ts us : List Token}
    (suited : Token.Suited text ts) (suited' : Token.Suited text' us) (alike : Parser.Alike ts us)
    (source source' : String) : SameOutcome (ofTokens source ts) (ofTokens source' us) := by
  have agree := Parser.agree_query alike
  unfold ofTokens
  rw [Parser.terminated_of_suited suited, Parser.terminated_of_suited suited']
  generalize Parser.query ts = first at agree
  generalize Parser.query us = second at agree
  cases agree with
  | ok isSame => exact .ok isSame
  | @error failure failure' isFault =>
      have kind : (failure.diagnostic source).kind = (failure'.diagnostic source').kind :=
        congrArg Parser.Fault.kind isFault
      have message : (failure.diagnostic source).message = (failure'.diagnostic source').message :=
        congrArg Parser.Fault.message isFault
      exact .error kind message

end Query

end JsonQuery

import Mathlib.Tactic
import JsonQuery.Query.Steps
import JsonQuery.Proofs.Structure

/-! # The steps of structured queries

A structured query can be taken apart: every term is where it has a step or a formula. The steps then
find what the query finds. A step with the steps behind it does what its term does with the rest of
the chain, whatever that rest is, and this is what makes the branches of one pair of brackets go on
by themselves.
-/

namespace JsonQuery

/-! ## Structured queries have steps -/

theorem Term.exists_steps {links : List Term}
    (each : ∀ term ∈ links, ∀ tail, ∃ step, term.step? tail = some step) :
    ∃ tail, Term.steps? links = some tail := by
  induction links with
  | nil => exact ⟨none, rfl⟩
  | cons term rest ih =>
      obtain ⟨first, more⟩ := List.forall_mem_cons.mp each
      obtain ⟨tail, isTail⟩ := ih more
      obtain ⟨step, isStep⟩ := first tail
      refine ⟨some step, ?_⟩
      rw [Term.steps?, isTail]
      simp only [isStep, Option.map_some]

theorem Expr.exists_branches {tail : Option Step} {terms : List Term}
    (each : ∀ term ∈ terms, ∃ step, term.step? tail = some step) :
    ∃ branches, Expr.branches? tail (terms.map .ofTerm) = some branches := by
  induction terms with
  | nil => exact ⟨[], rfl⟩
  | cons term rest ih =>
      obtain ⟨⟨step, isStep⟩, more⟩ := List.forall_mem_cons.mp each
      obtain ⟨branches, isBranches⟩ := ih more
      refine ⟨step :: branches, ?_⟩
      rw [List.map_cons, Expr.branches?, Expr.ofTerm, Expr.branch?, isStep, isBranches]

theorem Expr.exists_formulas {arguments : List Expr}
    (each : ∀ argument ∈ arguments, ∃ formula, argument.formula? = some formula) :
    ∃ formulas, Expr.formulas? arguments = some formulas := by
  induction arguments with
  | nil => exact ⟨[], rfl⟩
  | cons argument rest ih =>
      obtain ⟨⟨formula, isFormula⟩, more⟩ := List.forall_mem_cons.mp each
      obtain ⟨formulas, isFormulas⟩ := ih more
      refine ⟨formula :: formulas, ?_⟩
      rw [Expr.formulas?, isFormula, isFormulas]

mutual
-- The recursion is on the size of the term: the structure of a term in brackets speaks of the terms
-- from which its selectors are made, and those are no direct parts of it.
theorem Term.exists_step {term : Term} (structured : term.Structured) (isLink : term.isLink = true)
    (tail : Option Step) : ∃ step, term.step? tail = some step := by
  cases structured with
  | name | index | wildcard | slice => exact ⟨_, rfl⟩
  | filter testable inner =>
      obtain ⟨formula, isFormula⟩ := Expr.exists_formula inner
      refine ⟨.mk (.filter formula) tail, ?_⟩
      rw [Term.step?, isFormula, Option.map_some]
  | child several selectors inner =>
      obtain ⟨branches, isBranches⟩ := Expr.exists_branches fun term member =>
        have smaller := Term.sizeOf_lt_child member
        Term.exists_step (inner term member)
          (Parser.isLink_of_selects (by rw [selectors term member]; rfl)) tail
      refine ⟨.mk (.branch branches) none, ?_⟩
      rw [Term.step?, isBranches, Option.map_some]
  | @descendant term selects inner =>
      have smaller := Term.sizeOf_lt_descendant term
      obtain ⟨step, isStep⟩ := Term.exists_step inner (Parser.isLink_of_selects selects) none
      refine ⟨.mk (.descend step) tail, ?_⟩
      rw [Term.step?, Expr.ofTerm, Expr.branch?, isStep, Option.map_some]
  | comparison | connective | not | call | string | number | bool | null => cases isLink
termination_by sizeOf term
decreasing_by all_goals subst_vars; first | assumption | decreasing_tactic

theorem Expr.exists_formula {e : Expr} (structured : e.Structured) :
    ∃ formula, e.formula? = some formula := by
  cases structured with
  | @query head links _ isIdentifier areLinks inner =>
      obtain ⟨tail, isTail⟩ := Term.exists_steps fun term member =>
        have smaller := List.sizeOf_lt_of_mem member
        Term.exists_step (inner term member) (areLinks term member)
      cases head with
      | root => exact ⟨_, by rw [Expr.formula?, isTail, Option.map_some]⟩
      | current => exact ⟨_, by rw [Expr.formula?, isTail, Option.map_some]⟩
      | _ => cases isIdentifier
  | single notLink inner =>
      cases inner with
      | comparison _ _ _ innerLeft innerRight | connective _ _ _ innerLeft innerRight =>
          obtain ⟨left, isLeft⟩ := Expr.exists_formula innerLeft
          obtain ⟨right, isRight⟩ := Expr.exists_formula innerRight
          exact ⟨_, by rw [Expr.formula?, isLeft, isRight]⟩
      | not testable inner =>
          obtain ⟨formula, isFormula⟩ := Expr.exists_formula inner
          exact ⟨_, by rw [Expr.formula?, isFormula, Option.map_some]⟩
      | call taken inner =>
          obtain ⟨formulas, isFormulas⟩ := Expr.exists_formulas fun argument member =>
            have smaller := List.sizeOf_lt_of_mem member
            Expr.exists_formula (inner argument member)
          exact ⟨_, by rw [Expr.formula?, isFormulas, Option.map_some]⟩
      | string | number | bool | null => exact ⟨_, rfl⟩
      | name | index | wildcard | slice | filter | child | descendant => cases notLink
termination_by sizeOf e
decreasing_by all_goals subst_vars; decreasing_tactic
end

theorem Query.exists_step {q : Query} (structured : q.root.Structured) :
    ∃ step, q.step? = some step := by
  obtain ⟨formula, isFormula⟩ := Expr.exists_formula structured
  rw [Query.root, Expr.formula?] at isFormula
  obtain ⟨tail, isTail, _⟩ := Option.map_eq_some_iff.mp isFormula
  refine ⟨.mk .root tail, ?_⟩
  rw [Query.step?, isTail]
  rfl

/-! ## Steps find what their terms find -/

mutual
theorem Term.run_step (document : Json) (term : Term) {tail : Option Step} {step : Step}
    (isStep : term.step? tail = some step) :
    step.run document = term.visit document (Step.runNext document tail) := by
  funext node
  cases term with
  | filter condition =>
      rw [Term.step?] at isStep
      obtain ⟨formula, isFormula, rfl⟩ := Option.map_eq_some_iff.mp isStep
      rw [Term.visit, Step.run, Action.run, condition.eval_formula document isFormula]
  | child selectors =>
      rw [Term.step?] at isStep
      obtain ⟨branches, isBranches, rfl⟩ := Option.map_eq_some_iff.mp isStep
      rw [Term.visit, Step.run, Action.run, Expr.runAll_branches document selectors isBranches]
  | descendant selector =>
      rw [Term.step?] at isStep
      obtain ⟨held, isHeld, rfl⟩ := Option.map_eq_some_iff.mp isStep
      -- The selector is held without a tail: what it finds is gathered before it is handed on.
      have alone : held.run document = selector.visit document fun found => [found] :=
        selector.run_branch document isHeld
      rw [Term.visit, Step.run, Action.run, alone]
  | root | current | name _ | index _ | wildcard | slice _ _ _ =>
      cases isStep
      rfl
  | binary _ _ _ | not _ | call _ _ | string _ | number _ | bool _ | null => cases isStep
termination_by sizeOf term

theorem Term.runNext_steps (document : Json) (links : List Term) {tail : Option Step}
    (isTail : Term.steps? links = some tail) :
    Step.runNext document tail = Term.follow document links := by
  funext node
  cases links with
  | nil =>
      cases isTail
      rfl
  | cons term rest =>
      rw [Term.steps?] at isTail
      split at isTail
      · next behind isBehind =>
          obtain ⟨step, isStep, rfl⟩ := Option.map_eq_some_iff.mp isTail
          rw [Term.follow, Step.runNext, term.run_step document isStep,
            Term.runNext_steps document rest isBehind]
      · cases isTail
termination_by sizeOf links

theorem Expr.run_branch (document : Json) (selector : Expr) {tail : Option Step} {step : Step}
    (isStep : selector.branch? tail = some step) :
    step.run document = selector.visit document (Step.runNext document tail) := by
  cases selector with
  | chain head links grouped => exact head.run_step document isStep
termination_by sizeOf selector

theorem Expr.runAll_branches (document : Json) (selectors : List Expr) {tail : Option Step}
    {branches : List Step} (isBranches : Expr.branches? tail selectors = some branches) :
    Step.runAll document branches =
      Expr.visitAll document selectors (Step.runNext document tail) := by
  funext node
  cases selectors with
  | nil =>
      cases isBranches
      rfl
  | cons selector rest =>
      rw [Expr.branches?] at isBranches
      split at isBranches
      · next step steps isStep isSteps =>
          cases isBranches
          rw [Step.runAll, Expr.visitAll, selector.run_branch document isStep,
            Expr.runAll_branches document rest isSteps]
      · cases isBranches
termination_by sizeOf selectors

theorem Expr.eval_formula (document : Json) (e : Expr) {formula : Formula}
    (isFormula : e.formula? = some formula) : formula.eval document = e.eval document := by
  funext current
  cases e with
  | chain head links grouped =>
      cases head with
      | root | current =>
          rw [Expr.formula?] at isFormula
          obtain ⟨tail, isTail, rfl⟩ := Option.map_eq_some_iff.mp isFormula
          rw [Formula.eval, Expr.eval, Step.run, Action.run, Term.runNext_steps document links isTail]
      | binary operator left right =>
          rw [Expr.formula?] at isFormula
          split at isFormula
          · next leftFormula rightFormula isLeft isRight =>
              cases isFormula
              have sameLeft := left.eval_formula document isLeft
              have sameRight := right.eval_formula document isRight
              cases operator <;> simp only [Formula.eval, Expr.eval, sameLeft, sameRight]
          · cases isFormula
      | not operand =>
          rw [Expr.formula?] at isFormula
          obtain ⟨inner, isInner, rfl⟩ := Option.map_eq_some_iff.mp isFormula
          rw [Formula.eval, Expr.eval, operand.eval_formula document isInner]
      | call function arguments =>
          rw [Expr.formula?] at isFormula
          obtain ⟨formulas, isFormulas, rfl⟩ := Option.map_eq_some_iff.mp isFormula
          rw [Formula.eval, Expr.eval, Expr.evalAll_formulas document arguments isFormulas]
      | string _ | number _ | bool _ | null =>
          cases isFormula
          rfl
      | name _ | index _ | wildcard | slice _ _ _ | filter _ | child _ | descendant _ =>
          cases isFormula
termination_by sizeOf e

theorem Expr.evalAll_formulas (document : Json) (arguments : List Expr) {formulas : List Formula}
    (areFormulas : Expr.formulas? arguments = some formulas) (parameters : List Parameter)
    (current : Json) :
    Formula.evalAll document parameters formulas current =
      Expr.evalAll document parameters arguments current := by
  cases arguments with
  | nil =>
      cases areFormulas
      rfl
  | cons argument rest =>
      rw [Expr.formulas?] at areFormulas
      split at areFormulas
      · next formula more isFormula areMore =>
          cases areFormulas
          cases parameters with
          | nil => rfl
          | cons parameter parameters =>
              rw [Formula.evalAll, Expr.evalAll, argument.eval_formula document isFormula,
                Expr.evalAll_formulas document rest areMore]
      · cases areFormulas
termination_by sizeOf arguments
end

theorem Query.run_step {q : Query} {step : Step} (isStep : q.step? = some step) (document : Json) :
    step.run document (.root document) = q.run document := by
  rw [Query.step?] at isStep
  split at isStep
  · next tail isTail =>
      cases isStep
      rw [Query.run, Step.run, Action.run, Term.runNext_steps document q.links isTail]
  · cases isStep

/-- Whatever the tokens, a query that is read from them is structured. What is structured can be
    taken apart, a whole query as well as an expression by itself, and nothing changes by that. -/
theorem Query.structured_and_stepped :
    (∀ source ts q, Query.ofTokens source ts = .ok q → q.root.Structured) ∧
    (∀ q : Query, q.root.Structured → ∃ step, q.step? = some step ∧
      ∀ document, step.run document (.root document) = q.run document) ∧
    ∀ e : Expr, e.Structured → ∃ formula, e.formula? = some formula ∧
      ∀ document, formula.eval document = e.eval document := by
  refine ⟨fun _ _ _ ok => structured_of_ofTokens ok, ?_, ?_⟩
  · intro q structured
    obtain ⟨step, isStep⟩ := q.exists_step structured
    exact ⟨step, isStep, Query.run_step isStep⟩
  · intro e structured
    obtain ⟨formula, isFormula⟩ := Expr.exists_formula structured
    exact ⟨formula, isFormula, fun document => e.eval_formula document isFormula⟩

/-- Tokens with characters that do not belong to them, and with more behind a first end mark. -/
def strayTokens : List Token :=
  let token (kind : Token.Kind) (lexeme : String) (literal : Option Token.Literal) : Token :=
    ⟨kind, lexeme, literal, ⟨7, 0⟩⟩
  [token .root "]" none, token .leftBracket "" none, token .question "" none, token .not "" none,
    token .leftParen "" none, token .function "length" none, token .leftParen "" none,
    token .current "$" none, token .dot ".." none, token .identifier "true" none,
    token .rightParen "" none, token .lt ">" none, token .number "x" (some (.number (.int (-1)))),
    token .rightParen "" none, token .rightBracket "" none, token .doubleDot "." none,
    token .leftBracket "" none, token .number "07" none, token .comma "" none, token .star "" none,
    token .rightBracket "" none, token .eof "$" none, token .question "" none]

def strayQuery : Query where
  links := [.filter (.ofTerm (.not (.chain (.binary .lt
      (.ofTerm (.call .length [.chain .current [.name "true"] false]))
      (.ofTerm (.number (.int (-1))))) [] true))),
    .descendant (.ofTerm (.child [.ofTerm (.index 7), .ofTerm .wildcard]))]
  source := ""

theorem Query.structured_and_stepped_stray :
    Query.ofTokens "" strayTokens = .ok strayQuery ∧ strayQuery.root.Structured ∧
      ∃ step, strayQuery.step? = some step ∧
        ∀ document, step.run document (.root document) = strayQuery.run document := by
  have read : Query.ofTokens "" strayTokens = .ok strayQuery := by rfl
  have structured := Query.structured_and_stepped.1 "" strayTokens strayQuery read
  exact ⟨read, structured, Query.structured_and_stepped.2.1 strayQuery structured⟩

end JsonQuery

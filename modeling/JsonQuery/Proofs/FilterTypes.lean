import Mathlib.Tactic
import JsonQuery.Query.Guarded
import JsonQuery.Proofs.Structure

/-! # The types of filter expressions

What a sub-expression of a filter gives is used in the way its place demands: conditions are tested,
operands of comparisons and arguments are taken for one value, and some arguments for all nodes they
select. In a query that compiles, every sub-expression gives what its place can use, whatever the
document and whatever the node that the filter looks at.
-/

namespace JsonQuery

/-! ## Outcomes by their use -/

/-- What stands for one value at most. A truth value does not. -/
inductive Outcome.Single : Outcome → Prop where
  | value (v : Json) : Single (.value v)
  | nothing : Single .nothing
  | nodes {values : List Json} (few : values.length ≤ 1) : Single (.nodes values)

/-- What can be tested: a plain value cannot, nor can the lack of one. -/
inductive Outcome.Tested : Outcome → Prop where
  | nodes (values : List Json) : Tested (.nodes values)
  | logical (truth : Bool) : Tested (.logical truth)

inductive Outcome.Listed : Outcome → Prop where
  | nodes (values : List Json) : Listed (.nodes values)

/-! ## Places -/

/-- How the outcome of an expression is used. -/
inductive Role where
  /-- A selector picks nodes and has no outcome. -/
  | selector
  /-- A condition of a filter, or an operand of `&&`, `||` or `!`. -/
  | test
  /-- A side of a comparison. -/
  | operand
  | argument (parameter : Parameter)
  deriving DecidableEq, Repr

/-- What an expression in a role may give. -/
def Role.Admits : Role → Outcome → Prop
  | .selector, _ => True
  | .test, outcome => outcome.Tested
  | .operand, outcome | .argument .value, outcome => outcome.Single
  | .argument .nodes, outcome => outcome.Listed

/-- What may stand in a role. -/
def Role.Fits : Role → Expr → Prop
  | .selector, _ => True
  | .test, e => e.head.Testable
  | .operand, e => e.Comparable
  | .argument parameter, e => parameter.Takes e

/-- The expressions that a term is made of, with their roles. -/
def Term.parts : Term → List (Role × Expr)
  | .filter condition => [(.test, condition)]
  | .child selectors => selectors.map fun selector => (.selector, selector)
  | .descendant selector => [(.selector, selector)]
  | .binary operator left right =>
      if operator.isComparison then [(.operand, left), (.operand, right)]
      else [(.test, left), (.test, right)]
  | .not operand => [(.test, operand)]
  | .call function arguments =>
      (function.parameters.zip arguments).map fun (parameter, argument) =>
        (.argument parameter, argument)
  | .root | .current | .name _ | .index _ | .wildcard | .slice .. | .string _ | .number _ | .bool _
  | .null => []

/-- The terms of a chain. -/
def Expr.terms (e : Expr) : List Term := e.head :: e.links

/-- The terms inside an expression, at any depth. -/
inductive Expr.Contains (e : Expr) : Term → Prop where
  | term {term : Term} (isTerm : term ∈ e.terms) : e.Contains term
  | part {outer : Term} {role : Role} {part : Expr} {term : Term} (contains : e.Contains outer)
      (isPart : (role, part) ∈ outer.parts) (isTerm : term ∈ part.terms) : e.Contains term

/-! ## Parts of structured terms -/

/-- What is known of a term inside a structured expression. -/
def Term.Placed (term : Term) : Prop := term.isIdentifier = true ∨ term.Structured

theorem Expr.Structured.terms {e : Expr} (structured : e.Structured) :
    ∀ term ∈ e.terms, term.Placed := by
  intro term isTerm
  cases structured with
  | query isIdentifier _ inner =>
      cases isTerm with
      | head => exact .inl isIdentifier
      | tail _ isLink => exact .inr (inner term isLink)
  | single _ inner =>
      obtain rfl := List.mem_singleton.mp isTerm
      exact .inr inner

theorem Expr.Structured.links {e : Expr} (structured : e.Structured) :
    ∀ term ∈ e.links, term.Structured := by
  cases structured with
  | query _ _ inner => exact inner
  | single => simp [Expr.links]

/-- A part fits its role, and what it consists of is placed in turn. -/
theorem Term.Structured.part {term : Term} (structured : term.Structured) {role : Role} {part : Expr}
    (isPart : (role, part) ∈ term.parts) :
    role.Fits part ∧ ∀ inner ∈ part.terms, inner.Placed := by
  cases structured with
  | filter testable inner =>
      cases List.mem_singleton.mp isPart
      exact ⟨testable, inner.terms⟩
  | child _ _ inner =>
      obtain ⟨selector, isSelector, same⟩ := List.mem_map.mp isPart
      obtain ⟨held, isHeld, rfl⟩ := List.mem_map.mp isSelector
      cases same
      exact ⟨trivial, List.forall_mem_singleton.mpr (.inr (inner held isHeld))⟩
  | descendant _ inner =>
      cases List.mem_singleton.mp isPart
      exact ⟨trivial, List.forall_mem_singleton.mpr (.inr inner)⟩
  | comparison compares leftSide rightSide innerLeft innerRight =>
      rw [Term.parts, if_pos compares] at isPart
      cases isPart with
      | head => exact ⟨leftSide, innerLeft.terms⟩
      | tail _ isRight =>
          cases List.mem_singleton.mp isRight
          exact ⟨rightSide, innerRight.terms⟩
  | connective connects leftSide rightSide innerLeft innerRight =>
      rw [Term.parts, if_neg (Bool.eq_false_iff.mp connects)] at isPart
      cases isPart with
      | head => exact ⟨leftSide, innerLeft.terms⟩
      | tail _ isRight =>
          cases List.mem_singleton.mp isRight
          exact ⟨rightSide, innerRight.terms⟩
  | not testable inner =>
      cases List.mem_singleton.mp isPart
      exact ⟨testable, inner.terms⟩
  | call taken inner =>
      obtain ⟨⟨parameter, _⟩, isArgument, same⟩ := List.mem_map.mp isPart
      cases same
      have takes : parameter.Takes part := (List.forall₂_iff_zip.mp taken).2 isArgument
      exact ⟨takes, (inner part (List.of_mem_zip isArgument).2).terms⟩
  | name | index | wildcard | slice | string | number | bool | null => cases isPart

theorem Term.Placed.part {term : Term} (placed : term.Placed) {role : Role} {part : Expr}
    (isPart : (role, part) ∈ term.parts) :
    role.Fits part ∧ ∀ inner ∈ part.terms, inner.Placed := by
  cases placed with
  | inl isIdentifier =>
      cases term with
      | root | current => cases isPart
      | _ => cases isIdentifier
  | inr structured => exact structured.part isPart

theorem Expr.Contains.placed {e : Expr} (structured : e.Structured) {term : Term}
    (contains : e.Contains term) : term.Placed := by
  induction contains with
  | term isTerm => exact structured.terms _ isTerm
  | part _ isPart isTerm placed => exact (placed.part isPart).2 _ isTerm

/-! ## What fits gives what is admitted -/

attribute [grind =] Term.follow Expr.eval

theorem Term.length_follow_singular (document : Json) {links : List Term}
    (singular : ∀ term ∈ links, term.isSingular = true) (node : Node) :
    (Term.follow document links node).length ≤ 1 := by
  induction links generalizing node with
  | nil => simp [Term.follow]
  | cons term rest ih =>
      obtain ⟨first, more⟩ := List.forall_mem_cons.mp singular
      have onward : ∀ found : Option Node,
          (found.toList.flatMap (Term.follow document rest)).length ≤ 1 := by
        intro found
        cases found with
        | none => simp
        | some next => simpa using ih more next
      cases term with
      | name name => exact onward _
      | index index => exact onward _
      | _ => cases first

theorem Expr.exists_nodes_eval {head : Term} {links : List Term} {grouped : Bool}
    (isIdentifier : head.isIdentifier = true) (document current : Json) :
    ∃ node, (Expr.chain head links grouped).eval document current =
      .ofNodes (Term.follow document links node) := by
  cases head with
  | root => exact ⟨.root document, by rw [Expr.eval]⟩
  | current => exact ⟨.root current, by rw [Expr.eval]⟩
  | _ => cases isIdentifier

theorem Function.single_apply {function : Function} (value : function.returns = .value)
    (arguments : List Outcome) : (function.apply arguments).Single := by
  cases function with
  | length =>
      rw [Function.apply, lengthOf.eq_def]
      split <;> constructor
  | count =>
      rw [Function.apply, countOf.eq_def]
      split <;> exact .value _
  | value =>
      rw [Function.apply, valueOf.eq_def]
      split <;> constructor
  | «matches» | search => cases value

theorem Function.tested_apply {function : Function} (logical : function.returns = .logical)
    (arguments : List Outcome) : (function.apply arguments).Tested := by
  cases function with
  | «matches» | search =>
      rw [Function.apply, testOf.eq_def]
      split <;> exact .logical _
  | length | count | value => cases logical

theorem Expr.Comparable.single {e : Expr} (comparable : e.Comparable) (document current : Json) :
    (e.eval document current).Single := by
  cases comparable with
  | @literal head _ isLiteral => cases head <;> first | exact .value _ | cases isLiteral
  | query isIdentifier singular =>
      obtain ⟨node, same⟩ := Expr.exists_nodes_eval isIdentifier document current
      rw [same]
      refine .nodes ?_
      rw [List.length_map]
      exact Term.length_follow_singular document singular node
  | call value =>
      rw [Expr.eval]
      exact Function.single_apply value _

theorem Expr.tested_of_testable {e : Expr} (testable : e.head.Testable) (document current : Json) :
    (e.eval document current).Tested := by
  obtain ⟨head, links, grouped⟩ := e
  cases testable with
  | root | current =>
      rw [Expr.eval]
      exact .nodes _
  | call logical =>
      rw [Expr.eval]
      exact Function.tested_apply logical _
  | @binary operator left right => cases operator <;> exact .logical _
  | not => exact .logical _

theorem Role.Fits.admits {role : Role} {e : Expr} (fits : role.Fits e) (document current : Json) :
    role.Admits (e.eval document current) := by
  cases role with
  | selector => trivial
  | test => exact Expr.tested_of_testable fits document current
  | operand => exact Expr.Comparable.single fits document current
  | argument parameter =>
      cases fits with
      | value comparable => exact comparable.single document current
      | nodes isIdentifier =>
          obtain ⟨node, same⟩ := Expr.exists_nodes_eval isIdentifier document current
          rw [Role.Admits, same]
          exact .nodes _

/-! ## Guards never fail -/

theorem Outcome.Tested.test? {outcome : Outcome} (tested : outcome.Tested) :
    outcome.test? = some outcome.isTrue := by
  cases tested <;> rfl

theorem Outcome.Single.single? {outcome : Outcome} (single : outcome.Single) :
    outcome.single? = some outcome.toValue := by
  cases single with
  | value | nothing => rfl
  | @nodes values few =>
      match values with
      | [] | [_] => rfl
      | _ :: _ :: _ => simp at few

theorem Outcome.Single.compared? {outcome : Outcome} (single : outcome.Single) :
    outcome.compared? = some outcome.operand? := by
  rw [Outcome.compared?, single.single?, Option.map_some]
  cases single with
  | value | nothing => rfl
  | @nodes values _ => cases values <;> rfl

theorem Role.Admits.argument? {parameter : Parameter} {outcome : Outcome}
    (admits : (Role.argument parameter).Admits outcome) :
    outcome.argument? parameter = some (outcome.asArgument parameter) := by
  cases parameter with
  | value => exact Outcome.Single.single? admits
  | nodes =>
      cases admits
      rfl

theorem Node.gather_eq {find? : Node → Option (List Node)} {find : Node → List Node}
    (agree : ∀ node, find? node = some (find node)) (nodes : List Node) :
    Node.gather nodes find? = some (nodes.flatMap find) := by
  obtain rfl : find? = fun node => some (find node) := funext agree
  have each : nodes.mapM (fun node => some (find node)) = some (nodes.map find) := List.mapM_pure
  rw [Node.gather, each, Option.map_some, List.flatMap_def]

theorem Node.flatMap_filter (picks : Node → Bool) (find : Node → List Node) (nodes : List Node) :
    (nodes.filter picks).flatMap find =
      nodes.flatMap fun node => if picks node then find node else [] := by
  induction nodes with
  | nil => rfl
  | cons node rest ih =>
      rw [List.filter_cons, List.flatMap_cons]
      split
      · rw [List.flatMap_cons, ih]
      · rw [ih, List.nil_append]

/-- A guarded run of a term does as the plain one, if that is so for what comes after it. -/
def Term.Guarded (document : Json) (term : Term) : Prop :=
  ∀ (next? : Node → Option (List Node)) (next : Node → List Node),
    (∀ node, next? node = some (next node)) →
      ∀ node, term.visit? document next? node = some (term.visit document next node)

theorem Term.follow?_eq {document : Json} {links : List Term}
    (each : ∀ term ∈ links, term.Guarded document) (node : Node) :
    Term.follow? document links node = some (Term.follow document links node) := by
  induction links generalizing node with
  | nil => rfl
  | cons term rest ih =>
      obtain ⟨first, more⟩ := List.forall_mem_cons.mp each
      exact first _ _ (ih more) node

theorem Expr.visitAll?_eq {document : Json} {terms : List Term}
    (each : ∀ term ∈ terms, term.Guarded document) {next? : Node → Option (List Node)}
    {next : Node → List Node} (agree : ∀ node, next? node = some (next node)) (node : Node) :
    Expr.visitAll? document (terms.map .ofTerm) next? node =
      some (Expr.visitAll document (terms.map .ofTerm) next node) := by
  induction terms with
  | nil => rfl
  | cons term rest ih =>
      obtain ⟨first, more⟩ := List.forall_mem_cons.mp each
      rw [List.map_cons, Expr.visitAll?, Expr.visitAll, Expr.ofTerm, Expr.visit?, Expr.visit,
        first next? next agree node, ih more]
      rfl

theorem Expr.evalAll?_eq {document current : Json} {parameters : List Parameter}
    {arguments : List Expr} (taken : List.Forall₂ Parameter.Takes parameters arguments)
    (each : ∀ argument ∈ arguments,
      argument.eval? document current = some (argument.eval document current)) :
    Expr.evalAll? document parameters arguments current =
      some (Expr.evalAll document parameters arguments current) := by
  induction taken with
  | nil => rfl
  | @cons parameter argument parameters arguments takes _ ih =>
      obtain ⟨first, more⟩ := List.forall_mem_cons.mp each
      have fits : (Role.argument parameter).Fits argument := takes
      rw [Expr.evalAll?, Expr.evalAll, first, ih more]
      simp only [Option.bind_eq_bind, Option.bind_some, (fits.admits document current).argument?]
      rfl

mutual
theorem Term.Structured.guarded {term : Term} (structured : term.Structured) (document : Json) :
    term.Guarded document := by
  intro next? next agree node
  cases structured with
  | name | index | wildcard | slice => exact Node.gather_eq agree _
  | @filter condition testable inner =>
      -- The guarded run tests a child and hands it on at once, the plain one tests all children first.
      have filtered : ∀ child : Node, (do
          let outcome ← condition.eval? document child.value
          if ← outcome.test? then next? child else return []) =
          some (if (condition.eval document child.value).isTrue then next child else []) := by
        intro child
        have test := (Expr.tested_of_testable testable document child.value).test?
        rw [Expr.Structured.eval?_eq inner document child.value]
        simp only [Option.bind_eq_bind, Option.bind_some, test]
        split
        · exact agree child
        · rfl
      rw [Term.visit?, Term.visit, Node.gather_eq filtered, Node.flatMap_filter]
  | child _ _ inner =>
      refine Expr.visitAll?_eq (fun term member => ?_) agree node
      have smaller := Term.sizeOf_lt_child member
      exact Term.Structured.guarded (inner term member) document
  | @descendant term _ inner =>
      have smaller := Term.sizeOf_lt_descendant term
      have alone : ∀ node, term.visit? document (fun found => some [found]) node =
          some (term.visit document (fun found => [found]) node) :=
        Term.Structured.guarded inner document _ _ fun _ => rfl
      have below := Node.gather_eq alone node.selfAndBelow
      simp only [Term.visit?, Term.visit, Expr.ofTerm, Expr.visit?, Expr.visit]
      rw [below]
      exact Node.gather_eq agree _
  | comparison | connective | not | call | string | number | bool | null => rfl
termination_by sizeOf term
decreasing_by all_goals subst_vars; first | assumption | decreasing_tactic

theorem Expr.Structured.eval?_eq {e : Expr} (structured : e.Structured) (document current : Json) :
    e.eval? document current = some (e.eval document current) := by
  cases structured with
  | @query head links _ isIdentifier _ inner =>
      have follows : ∀ node, Term.follow? document links node = some (Term.follow document links node) :=
        Term.follow?_eq fun term member =>
          have smaller := List.sizeOf_lt_of_mem member
          Term.Structured.guarded (inner term member) document
      cases head with
      | root | current => rw [Expr.eval?, Expr.eval, follows, Option.map_some]
      | _ => cases isIdentifier
  | single notLink inner =>
      cases inner with
      | @comparison operator left right compares leftSide rightSide innerLeft innerRight =>
          have evalLeft := Expr.Structured.eval?_eq innerLeft document current
          have evalRight := Expr.Structured.eval?_eq innerRight document current
          have compareLeft := (leftSide.single document current).compared?
          have compareRight := (rightSide.single document current).compared?
          cases operator with
          | and | or => cases compares
          | _ =>
              simp only [Expr.eval?, Expr.eval, evalLeft, evalRight, compareLeft, compareRight,
                Option.bind_eq_bind, Option.bind_some, Option.pure_def]
      | @connective operator left right connects leftSide rightSide innerLeft innerRight =>
          have evalLeft := Expr.Structured.eval?_eq innerLeft document current
          have evalRight := Expr.Structured.eval?_eq innerRight document current
          have testLeft := (Expr.tested_of_testable leftSide document current).test?
          have testRight := (Expr.tested_of_testable rightSide document current).test?
          cases operator with
          | and | or =>
              simp only [Expr.eval?, Expr.eval, evalLeft, evalRight, testLeft, testRight,
                Option.bind_eq_bind, Option.bind_some, Option.pure_def]
          | _ => cases connects
      | not testable inner =>
          have test := (Expr.tested_of_testable testable document current).test?
          simp only [Expr.eval?, Expr.eval, Expr.Structured.eval?_eq inner document current, test,
            Option.bind_eq_bind, Option.bind_some, Option.pure_def]
      | call taken inner =>
          rw [Expr.eval?, Expr.eval, Expr.evalAll?_eq taken, Option.map_some]
          intro argument member
          have smaller := List.sizeOf_lt_of_mem member
          exact Expr.Structured.eval?_eq (inner argument member) document current
      | string | number | bool | null => rfl
      | name | index | wildcard | slice | filter | child | descendant => cases notLink
termination_by sizeOf e
decreasing_by all_goals subst_vars; decreasing_tactic
end

theorem Query.run?_eq {q : Query} (structured : q.root.Structured) (document : Json) :
    q.run? document = some (q.run document) := by
  refine Term.follow?_eq (fun term member => ?_) (.root document)
  exact (structured.links term member).guarded document

/-- In a query that compiles, every expression gives what its role admits, for every document and
    every node that a filter may look at, and no singular query gives two nodes. So no conversion is
    ever asked about an outcome that it is not meant for. -/
theorem Query.filters_are_typed {source : String} {q : Query} (ok : Query.compile source = .ok q)
    (document : Json) :
    (∀ (e : Expr) (current : Json), e.isSingularQuery = true →
      ∃ values, e.eval document current = .nodes values ∧ values.length ≤ 1) ∧
    (∀ term, q.root.Contains term → ∀ role part, (role, part) ∈ term.parts →
      ∀ current, role.Admits (part.eval document current)) ∧
    q.run? document = some (q.run document) := by
  have structured := structured_of_compile ok
  refine ⟨?_, ?_, run?_eq structured document⟩
  · intro e current isSingular
    obtain ⟨head, links, grouped⟩ := e
    simp only [Expr.isSingularQuery, Bool.and_eq_true, List.all_eq_true] at isSingular
    obtain ⟨node, same⟩ := Expr.exists_nodes_eval isSingular.1 document current
    refine ⟨_, same, ?_⟩
    rw [List.length_map]
    exact Term.length_follow_singular document isSingular.2 node
  · intro term contains role part isPart current
    have fits := ((contains.placed structured).part isPart).1
    exact fits.admits document current

def countOfOthers : Expr :=
  .ofTerm (.call .count
    [.chain .current [.filter (.ofTerm (.not (.chain .current [.name "a"] false)))] false])

def lettersOfName : Expr := .ofTerm (.call .length [.chain .current [.name "d"] false])

/-- Comparisons and calls below a logical operator, with a filter inside an argument. -/
def nestedFilters : Query where
  links := [.filter (.ofTerm (.binary .and (.ofTerm (.binary .gt countOfOthers lettersOfName))
    (.ofTerm (.call .matches [.chain .current [.name "e"] false, .ofTerm (.string "x")]))))]
  source := "$[?count(@[?!@.a]) > length(@.d) && match(@['e'], 'x')]"

theorem Query.filters_are_typed_nested :
    Query.compile "$[?count(@[?!@.a]) > length(@.d) && match(@['e'], 'x')]" = .ok nestedFilters ∧
      ∀ document, nestedFilters.run? document = some (nestedFilters.run document) ∧
        ∀ current, (lettersOfName.eval document current).Single := by
  have compiled : Query.compile "$[?count(@[?!@.a]) > length(@.d) && match(@['e'], 'x')]" =
      .ok nestedFilters := compile_eq_ok_iff.mpr ⟨_, by conv_lhs => cbv, rfl⟩
  refine ⟨compiled, fun document => ?_⟩
  obtain ⟨_, typed, guarded⟩ := Query.filters_are_typed compiled document
  have condition : nestedFilters.root.Contains (.binary .and (.ofTerm (.binary .gt countOfOthers
      lettersOfName)) (.ofTerm (.call .matches [.chain .current [.name "e"] false,
        .ofTerm (.string "x")]))) :=
    .part (.term (.tail _ (.head _))) (.head _) (.head _)
  have comparison : nestedFilters.root.Contains (.binary .gt countOfOthers lettersOfName) :=
    .part condition (.head _) (.head _)
  exact ⟨guarded, typed _ comparison .operand lettersOfName (.tail _ (.head _))⟩

end JsonQuery

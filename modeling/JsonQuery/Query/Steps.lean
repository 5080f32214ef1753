import JsonQuery.Query.Evaluation

/-! # Queries as steps

Before it is run a query can be taken apart into steps. Each link of a chain becomes a step that
hands its nodes on to the next one; several selectors in one pair of brackets become branches, and
each of them gets the rest of the chain for itself. Terms that stand where they do not belong have no
steps.
-/

namespace JsonQuery

mutual
/-- A step of a query and the one it hands its nodes on to. -/
inductive Step where
  | mk (action : Action) (next : Option Step)

/-- What a step does at a node. -/
inductive Action where
  | root
  | current
  | name (name : String)
  | index (index : Int)
  | wildcard
  | slice (start stop step : Option Int)
  | filter (condition : Formula)
  /-- All branches go on from the same node. -/
  | branch (branches : List Step)
  /-- A step taken at a node and at all nodes below. -/
  | descend (selector : Step)

/-- An expression of a filter with the steps of its queries. -/
inductive Formula where
  | literal (value : Json)
  | query (chain : Step)
  | binary (operator : Operator) (left right : Formula)
  | not (operand : Formula)
  | call (function : Function) (arguments : List Formula)
end

/-! ## Taking a query apart -/

mutual
/-- The step of a link in front of the steps of the links behind it. Expressions are no links. -/
def Term.step? (tail : Option Step) (term : Term) : Option Step :=
  match term with
  | .root => some (.mk .root tail)
  | .current => some (.mk .current tail)
  | .name name => some (.mk (.name name) tail)
  | .index index => some (.mk (.index index) tail)
  | .wildcard => some (.mk .wildcard tail)
  | .slice start stop step => some (.mk (.slice start stop step) tail)
  | .filter condition => condition.formula?.map fun formula => .mk (.filter formula) tail
  | .child selectors =>
      (Expr.branches? tail selectors).map fun branches => .mk (.branch branches) none
  | .descendant selector => (selector.branch? none).map fun step => .mk (.descend step) tail
  | .binary .. | .not _ | .call .. | .string _ | .number _ | .bool _ | .null => none
termination_by structural term

def Term.steps? (links : List Term) : Option (Option Step) :=
  match links with
  | [] => some none
  | term :: rest =>
      match Term.steps? rest with
      | some tail => (term.step? tail).map some
      | none => none
termination_by structural links

def Expr.branch? (tail : Option Step) (selector : Expr) : Option Step :=
  match selector with
  | .chain head _ _ => head.step? tail
termination_by structural selector

def Expr.branches? (tail : Option Step) (selectors : List Expr) : Option (List Step) :=
  match selectors with
  | [] => some []
  | selector :: rest =>
      match selector.branch? tail, Expr.branches? tail rest with
      | some step, some steps => some (step :: steps)
      | _, _ => none
termination_by structural selectors

/-- The formula of an expression. Selectors and segments are no expressions. -/
def Expr.formula? (e : Expr) : Option Formula :=
  match e with
  | .chain head links _ =>
      match head with
      | .root => (Term.steps? links).map fun tail => .query (.mk .root tail)
      | .current => (Term.steps? links).map fun tail => .query (.mk .current tail)
      | .binary operator left right =>
          match left.formula?, right.formula? with
          | some left, some right => some (.binary operator left right)
          | _, _ => none
      | .not operand => operand.formula?.map .not
      | .call function arguments => (Expr.formulas? arguments).map (.call function)
      | .string value => some (.literal (.string value))
      | .number value => some (.literal (.number value))
      | .bool value => some (.literal (.bool value))
      | .null => some (.literal .null)
      | .name _ | .index _ | .wildcard | .slice .. | .filter _ | .child _ | .descendant _ => none
termination_by structural e

def Expr.formulas? (arguments : List Expr) : Option (List Formula) :=
  match arguments with
  | [] => some []
  | argument :: rest =>
      match argument.formula?, Expr.formulas? rest with
      | some formula, some formulas => some (formula :: formulas)
      | _, _ => none
termination_by structural arguments
end

def Query.step? (q : Query) : Option Step :=
  match Term.steps? q.links with
  | some tail => Term.root.step? tail
  | none => none

/-! ## Taking the steps -/

mutual
/-- What a step and all that follow it find from a node. -/
def Step.run (document : Json) (step : Step) (node : Node) : List Node :=
  match step with
  | .mk action next => action.run document (Step.runNext document next) node
termination_by structural step

/-- Hand a node on; without a next step it is found. -/
def Step.runNext (document : Json) (next : Option Step) (node : Node) : List Node :=
  match next with
  | none => [node]
  | some step => step.run document node
termination_by structural next

def Step.runAll (document : Json) (branches : List Step) (node : Node) : List Node :=
  match branches with
  | [] => []
  | step :: rest => step.run document node ++ Step.runAll document rest node
termination_by structural branches

def Action.run (document : Json) (action : Action) (next : Node → List Node) (node : Node) :
    List Node :=
  match action with
  | .root => next (.root document)
  | .current => next node
  | .name name => (node.member? name).toList.flatMap next
  | .index index => (node.item? index).toList.flatMap next
  | .wildcard => node.children.flatMap next
  | .slice start stop step => (node.slice start stop step).flatMap next
  | .filter condition =>
      (node.children.filter fun child => (condition.eval document child.value).isTrue).flatMap
        next
  | .branch branches => Step.runAll document branches node
  | .descend selector => (node.selfAndBelow.flatMap (selector.run document)).flatMap next
termination_by structural action

def Formula.eval (document : Json) (formula : Formula) (current : Json) : Outcome :=
  match formula with
  | .literal value => .value value
  | .query chain => .ofNodes (chain.run document (.root current))
  | .binary .and left right =>
      .logical ((left.eval document current).isTrue && (right.eval document current).isTrue)
  | .binary .or left right =>
      .logical ((left.eval document current).isTrue || (right.eval document current).isTrue)
  | .binary operator left right =>
      .logical
        (operator.compare (left.eval document current).operand?
          (right.eval document current).operand?)
  | .not operand => .logical (!(operand.eval document current).isTrue)
  | .call function arguments =>
      function.apply (Formula.evalAll document function.parameters arguments current)
termination_by structural formula

def Formula.evalAll (document : Json) (parameters : List Parameter) (arguments : List Formula)
    (current : Json) : List Outcome :=
  match arguments with
  | [] => []
  | argument :: rest =>
      match parameters with
      | [] => []
      | parameter :: parameters =>
          (argument.eval document current).asArgument parameter ::
            Formula.evalAll document parameters rest current
termination_by structural arguments
end

end JsonQuery

import JsonQuery.Query.Evaluation

/-! # Guarded runs

Outcomes are converted on the way: tested, taken for one value, or compared. Each conversion is meant
for some outcomes only and gives the others an answer that nobody asks for. A guarded run does as the
plain one but fails where a conversion is asked about an outcome that it is not meant for.
-/

namespace JsonQuery

namespace Outcome

/-- Whether a test succeeds, for nodes and truth values. -/
def test? : Outcome → Option Bool
  | .nodes values => some !values.isEmpty
  | .logical truth => some truth
  | .value _ | .nothing => none

/-- The single value, unless there are several or it is a truth value. -/
def single? : Outcome → Option Outcome
  | .nodes [] => some .nothing
  | .nodes [only] => some (.value only)
  | .value v => some (.value v)
  | .nothing => some .nothing
  | .nodes (_ :: _ :: _) | .logical _ => none

/-- The operand of a comparison, under the same condition. -/
def compared? (outcome : Outcome) : Option (Option Json) :=
  outcome.single?.map operand?

def argument? : Outcome → Parameter → Option Outcome
  | outcome, .value => outcome.single?
  | .nodes values, .nodes => some (.nodes values)
  | _, .nodes => none

end Outcome

/-- What is found from all nodes, if no node fails. -/
def Node.gather (nodes : List Node) (find : Node → Option (List Node)) : Option (List Node) :=
  (nodes.mapM find).map List.flatten

mutual
def Term.visit? (document : Json) (term : Term) (next : Node → Option (List Node)) (node : Node) :
    Option (List Node) :=
  match term with
  | .root => next (.root document)
  | .current => next node
  | .name name => Node.gather (node.member? name).toList next
  | .index index => Node.gather (node.item? index).toList next
  | .wildcard => Node.gather node.children next
  | .slice start stop step => Node.gather (node.slice start stop step) next
  | .filter condition =>
      Node.gather node.children fun child => do
        let outcome ← condition.eval? document child.value
        if ← outcome.test? then next child else return []
  | .child selectors => Expr.visitAll? document selectors next node
  | .descendant selector => do
      let found ← Node.gather node.selfAndBelow (selector.visit? document fun found => some [found])
      Node.gather found next
  | .binary .. | .not _ | .call .. | .string _ | .number _ | .bool _ | .null => some []
termination_by structural term

def Term.follow? (document : Json) (links : List Term) (node : Node) : Option (List Node) :=
  match links with
  | [] => some [node]
  | term :: rest => term.visit? document (Term.follow? document rest) node
termination_by structural links

def Expr.visit? (document : Json) (selector : Expr) (next : Node → Option (List Node))
    (node : Node) : Option (List Node) :=
  match selector with
  | .chain head _ _ => head.visit? document next node
termination_by structural selector

def Expr.visitAll? (document : Json) (selectors : List Expr) (next : Node → Option (List Node))
    (node : Node) : Option (List Node) :=
  match selectors with
  | [] => some []
  | selector :: rest => do
      let found ← selector.visit? document next node
      let more ← Expr.visitAll? document rest next node
      return found ++ more
termination_by structural selectors

def Expr.eval? (document : Json) (e : Expr) (current : Json) : Option Outcome :=
  match e with
  | .chain head links _ =>
      match head with
      | .root => (Term.follow? document links (.root document)).map .ofNodes
      | .current => (Term.follow? document links (.root current)).map .ofNodes
      | .binary .and left right => do
          let first ← (← left.eval? document current).test?
          let second ← (← right.eval? document current).test?
          return .logical (first && second)
      | .binary .or left right => do
          let first ← (← left.eval? document current).test?
          let second ← (← right.eval? document current).test?
          return .logical (first || second)
      | .binary operator left right => do
          let first ← (← left.eval? document current).compared?
          let second ← (← right.eval? document current).compared?
          return .logical (operator.compare first second)
      | .not operand => do
          let truth ← (← operand.eval? document current).test?
          return .logical !truth
      | .call function arguments =>
          (Expr.evalAll? document function.parameters arguments current).map function.apply
      | .string value => some (.value (.string value))
      | .number value => some (.value (.number value))
      | .bool value => some (.value (.bool value))
      | .null => some (.value .null)
      | .name _ | .index _ | .wildcard | .slice .. | .filter _ | .child _ | .descendant _ =>
          some .nothing
termination_by structural e

def Expr.evalAll? (document : Json) (parameters : List Parameter) (arguments : List Expr)
    (current : Json) : Option (List Outcome) :=
  match arguments with
  | [] => some []
  | argument :: rest =>
      match parameters with
      | [] => some []
      | parameter :: parameters => do
          let outcome ← (← argument.eval? document current).argument? parameter
          let more ← Expr.evalAll? document parameters rest current
          return outcome :: more
termination_by structural arguments
end

/-- The nodes that a query selects, if no conversion is asked about an outcome it is not meant for. -/
def Query.run? (q : Query) (document : Json) : Option (List Node) :=
  Term.follow? document q.links (.root document)

end JsonQuery

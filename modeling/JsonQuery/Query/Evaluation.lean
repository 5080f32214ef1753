import JsonQuery.Json.Comparison
import JsonQuery.Slice
import JsonQuery.Outcome
import JsonQuery.Query

/-! # Running queries

Every node that a selector picks is handed on to the rest of the chain at once, so nodes are found
depth first: all that follows from one node comes before the next node of the same selector. Several
selectors in one pair of brackets each run the rest of the chain for themselves. A descendant
segment first gathers what its selector picks at all nodes below, and then hands on.
-/

namespace JsonQuery

/-- The values of nodes as an outcome. -/
def Outcome.ofNodes (nodes : List Node) : Outcome := .nodes (nodes.map Node.value)

mutual
/-- Hand the nodes that a term picks at a node on to `next`. Terms that pick nothing are those that
    no chain contains. -/
def Term.visit (document : Json) (term : Term) (next : Node → List Node) (node : Node) :
    List Node :=
  match term with
  | .root => next (.root document)
  | .current => next node
  | .name name => (node.member? name).toList.flatMap next
  | .index index => (node.item? index).toList.flatMap next
  | .wildcard => node.children.flatMap next
  | .slice start stop step => (node.slice start stop step).flatMap next
  | .filter condition =>
      (node.children.filter fun child => (condition.eval document child.value).isTrue).flatMap
        next
  | .child selectors => Expr.visitAll document selectors next node
  | .descendant selector =>
      (node.selfAndBelow.flatMap (selector.visit document fun found => [found])).flatMap next
  | .binary .. | .not _ | .call .. | .string _ | .number _ | .bool _ | .null => []
termination_by structural term

def Term.follow (document : Json) (links : List Term) (node : Node) : List Node :=
  match links with
  | [] => [node]
  | term :: rest => term.visit document (Term.follow document rest) node
termination_by structural links

def Expr.visit (document : Json) (selector : Expr) (next : Node → List Node) (node : Node) :
    List Node :=
  match selector with
  | .chain head _ _ => head.visit document next node
termination_by structural selector

def Expr.visitAll (document : Json) (selectors : List Expr) (next : Node → List Node)
    (node : Node) : List Node :=
  match selectors with
  | [] => []
  | selector :: rest =>
      selector.visit document next node ++ Expr.visitAll document rest next node
termination_by structural selectors

/-- The outcome of an expression in a filter that looks at the value `current`. -/
def Expr.eval (document : Json) (e : Expr) (current : Json) : Outcome :=
  match e with
  | .chain head links _ =>
      match head with
      | .root => .ofNodes (Term.follow document links (.root document))
      | .current => .ofNodes (Term.follow document links (.root current))
      | .binary .and left right =>
          .logical
            ((left.eval document current).isTrue && (right.eval document current).isTrue)
      | .binary .or left right =>
          .logical
            ((left.eval document current).isTrue || (right.eval document current).isTrue)
      | .binary operator left right =>
          .logical
            (operator.compare (left.eval document current).operand?
              (right.eval document current).operand?)
      | .not operand => .logical (!(operand.eval document current).isTrue)
      | .call function arguments =>
          function.apply (Expr.evalAll document function.parameters arguments current)
      | .string value => .value (.string value)
      | .number value => .value (.number value)
      | .bool value => .value (.bool value)
      | .null => .value .null
      | .name _ | .index _ | .wildcard | .slice .. | .filter _ | .child _ | .descendant _ =>
          .nothing
termination_by structural e

/-- The arguments of a function, each as its parameter takes it. -/
def Expr.evalAll (document : Json) (parameters : List Parameter) (arguments : List Expr)
    (current : Json) : List Outcome :=
  match arguments with
  | [] => []
  | argument :: rest =>
      match parameters with
      | [] => []
      | parameter :: parameters =>
          (argument.eval document current).asArgument parameter ::
            Expr.evalAll document parameters rest current
termination_by structural arguments
end

namespace Query

/-- The nodes that a query selects in a document, in order and with repetitions. -/
def run (q : Query) (document : Json) : List Node :=
  Term.follow document q.links (.root document)

def search (q : Query) (document : Json) : List Json := (q.run document).map Node.value

/-- Show every node that a query selects to the caller, in order. The caller may keep a state of its
    own. -/
def each {σ : Type} (visit : Node → StateM σ Unit) (q : Query) (document : Json) : StateM σ Unit :=
  (q.run document).forM visit

/-- The values that a query selects, with their normalized paths. -/
def locate (q : Query) (document : Json) : List (String × Json) :=
  (q.run document).map fun node => (node.path, node.value)

end Query

end JsonQuery

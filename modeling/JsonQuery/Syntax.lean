import JsonQuery.Function
import JsonQuery.Number

/-! # The syntax of queries

A query is a chain: `$` or `@` followed by links, each a selector or a segment. Filters hang off
their selector as expressions of their own. The types below admit more than the grammar does, since
an expression is checked where it is put together and not by its shape: any term may head a chain,
and any term may be linked to it.
-/

namespace JsonQuery

inductive Operator where
  | or
  | and
  | eq
  | ne
  | lt
  | le
  | gt
  | ge
  deriving DecidableEq, Repr

namespace Operator

/-- All operators but the two logical ones compare values. -/
def isComparison : Operator → Bool
  | .or | .and => false
  | _ => true

def symbol : Operator → String
  | .or => "||"
  | .and => "&&"
  | .eq => "=="
  | .ne => "!="
  | .lt => "<"
  | .le => "<="
  | .gt => ">"
  | .ge => ">="

end Operator

mutual
/-- One element of an expression. -/
inductive Term where
  /-- The sign `$`: the whole document. -/
  | root
  /-- The sign `@`: the node a filter looks at. -/
  | current
  /-- The member of a name. -/
  | name (name : String)
  /-- The item at an index, a negative one counting from the end. -/
  | index (index : Int)
  /-- All items and members. -/
  | wildcard
  /-- The items from `start` to `stop` in strides of `step`. -/
  | slice (start stop step : Option Int)
  /-- The items and members for which a condition holds. -/
  | filter (condition : Expr)
  /-- Several selectors in one pair of brackets. -/
  | child (selectors : List Expr)
  /-- A selector applied to a node and all nodes below it. -/
  | descendant (selector : Expr)
  /-- Two operands and the operator between them. -/
  | binary (operator : Operator) (left right : Expr)
  /-- A negation. -/
  | not (operand : Expr)
  /-- A function with its arguments. -/
  | call (function : Function) (arguments : List Expr)
  /-- A literal string. -/
  | string (value : String)
  /-- A literal number. -/
  | number (value : Number)
  /-- A literal truth value. -/
  | bool (value : Bool)
  /-- The literal `null`. -/
  | null
  deriving Repr

/-- A term with the terms linked to it. -/
inductive Expr where
  /-- A chain from its head on; `grouped` says that it was written in parentheses. -/
  | chain (head : Term) (links : List Term) (grouped : Bool)
  deriving Repr
end

namespace Term

/-- A literal string, number, truth value or `null`. -/
def isLiteral : Term → Bool
  | .string _ | .number _ | .bool _ | .null => true
  | _ => false

/-- A query begins with `$` or `@`. -/
def isIdentifier : Term → Bool
  | .root | .current => true
  | _ => false

/-- Names and indices select at most one node. -/
def isSingular : Term → Bool
  | .name _ | .index _ => true
  | _ => false

/-- A selector that fills a place in brackets by itself. -/
def isSelector : Term → Bool
  | .name _ | .index _ | .wildcard | .slice .. | .filter _ => true
  | _ => false

def isBinary : Term → Bool
  | .binary .. => true
  | _ => false

def isOperator (operator : Operator) : Term → Bool
  | .binary o _ _ => o == operator
  | _ => false

def isBool : Term → Bool
  | .bool _ => true
  | _ => false

end Term

namespace Expr

def ofTerm (head : Term) : Expr := .chain head [] false

def head : Expr → Term
  | .chain head _ _ => head

def links : Expr → List Term
  | .chain _ links _ => links

def isGrouped : Expr → Bool
  | .chain _ _ grouped => grouped

def group : Expr → Expr
  | .chain head links _ => .chain head links true

def append (more : List Term) : Expr → Expr
  | .chain head links grouped => .chain head (links ++ more) grouped

def length (e : Expr) : Nat := e.links.length + 1

def isLiteral (e : Expr) : Bool := e.head.isLiteral

def isQuery (e : Expr) : Bool := e.head.isIdentifier

/-- A query that selects at most one node, because all its links do. -/
def isSingularQuery (e : Expr) : Bool := e.isQuery && e.links.all Term.isSingular

/-- What may stand beside a comparison operator: outside parentheses, a function that gives a value,
    a literal or a singular query. -/
def isComparable (e : Expr) : Bool :=
  !e.isGrouped &&
    match e.head with
    | .call function _ => function.returns == .value
    | _ => e.isLiteral || e.isSingularQuery

/-- What may be tested: a query, a function that gives a truth value, or an operator's result. -/
def isTest (e : Expr) : Bool :=
  match e.head with
  | .root | .current | .binary .. | .not _ => true
  | .call function _ => function.returns == .logical
  | _ => false

@[simp] theorem head_group (e : Expr) : e.group.head = e.head := by cases e; rfl

@[simp] theorem links_group (e : Expr) : e.group.links = e.links := by cases e; rfl

@[simp] theorem isTest_group (e : Expr) : e.group.isTest = e.isTest := by cases e; rfl

@[simp] theorem isComparable_group (e : Expr) : e.group.isComparable = false := by cases e; rfl

theorem isComparable_of_isSingularQuery {e : Expr} (h : e.isSingularQuery = true)
    (open' : e.isGrouped = false) : e.isComparable = true := by
  obtain ⟨head, links, grouped⟩ := e
  cases head <;>
    simp_all [isSingularQuery, isQuery, isComparable, Expr.head, Term.isIdentifier, isGrouped]

end Expr

end JsonQuery

import JsonQuery.Json
import JsonQuery.Function
import JsonQuery.Pattern.Query

/-! # Results of filter expressions

A sub-expression of a filter gives a list of nodes, a single value, nothing at all, or a truth
value. Which of them, and how it is used, follows from the types of functions and operators.
-/

namespace JsonQuery

/-- What a sub-expression of a filter gives. -/
inductive Outcome where
  /-- The values of the nodes that a query selects. -/
  | nodes (values : List Json)
  | value (value : Json)
  /-- No value, which differs from `null`. -/
  | nothing
  | logical (truth : Bool)
  deriving Repr

namespace Outcome

/-- Whether a test succeeds: nodes do if there are any, and a value always does. -/
def isTrue : Outcome → Bool
  | .nodes values => !values.isEmpty
  | .value _ => true
  | .nothing => false
  | .logical truth => truth

/-- A list of nodes taken for the value of its first node. -/
def toValue : Outcome → Outcome
  | .nodes [] => .nothing
  | .nodes (first :: _) => .value first
  | other => other

def operand? (outcome : Outcome) : Option Json :=
  match outcome.toValue with
  | .value v => some v
  | .logical truth => some (.bool truth)
  | _ => none

def asArgument (outcome : Outcome) : Parameter → Outcome
  | .value => outcome.toValue
  | .nodes => outcome

end Outcome

namespace Function

def countValue (n : Nat) : Outcome := .value (.int n)

/-- The number of characters, items or members; other values have none. -/
def lengthOf : List Outcome → Outcome
  | .value (.string s) :: _ => countValue s.length
  | .value (.array items) :: _ => countValue items.length
  | .value (.object members) :: _ => countValue members.length
  | _ => .nothing

/-- The number of nodes; a single value counts as one. -/
def countOf : List Outcome → Outcome
  | .nodes values :: _ => countValue values.length
  | .value _ :: _ => countValue 1
  | _ => countValue 0

/-- The value of the only node. -/
def valueOf : List Outcome → Outcome
  | .nodes [single] :: _ => .value single
  | .value v :: _ => .value v
  | _ => .nothing

/-- Whether the second of two strings, as a pattern, matches the first. -/
def testOf (anchored : Bool) : List Outcome → Outcome
  | .value (.string text) :: .value (.string pattern) :: _ =>
      .logical (Pattern.test anchored pattern text)
  | _ => .logical false

def apply : Function → List Outcome → Outcome
  | .length => lengthOf
  | .count => countOf
  | .matches => testOf true
  | .search => testOf false
  | .value => valueOf

end Function

end JsonQuery

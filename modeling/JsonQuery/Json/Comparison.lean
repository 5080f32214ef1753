import JsonQuery.Json
import JsonQuery.Syntax

/-! # Comparing values

Numbers are equal by value, whatever their type; arrays and objects are equal part by part. Only two
numbers or two strings are ordered. An operand may also be absent, which differs from `null`.
-/

namespace JsonQuery

namespace Json

mutual
def equal : Json → Json → Bool
  | .null, .null => true
  | .bool a, .bool b => a == b
  | .number a, .number b => a.cmp b == .eq
  | .string a, .string b => a == b
  | .array as, .array bs => equalItems as bs
  | .object as, .object bs => as.length == bs.length && equalMembers as bs
  | _, _ => false
termination_by structural a => a

def equalItems : List Json → List Json → Bool
  | [], [] => true
  | a :: as, b :: bs => a.equal b && equalItems as bs
  | _, _ => false
termination_by structural as => as

/-- Every member has its equal in the other object. -/
def equalMembers : List (String × Json) → List (String × Json) → Bool
  | [], _ => true
  | (name, a) :: as, bs =>
      (match lookup name bs with
        | some b => a.equal b
        | none => false) &&
      equalMembers as bs
termination_by structural as => as
end

/-- The order of numbers and of strings. -/
def less : Json → Json → Bool
  | .number a, .number b => a.cmp b == .lt
  | .string a, .string b => a < b
  | _, _ => false

end Json

namespace Operator

/-- Two operands are equal if both are absent, or both are there and equal. -/
def operandsEqual : Option Json → Option Json → Bool
  | none, none => true
  | some a, some b => a.equal b
  | _, _ => false

/-- An absent operand is not ordered. -/
def operandsLess : Option Json → Option Json → Bool
  | some a, some b => a.less b
  | _, _ => false

/-- The result of a comparison. The logical operators compare nothing. -/
def compare (operator : Operator) (left right : Option Json) : Bool :=
  match operator with
  | .eq => operandsEqual left right
  | .ne => !operandsEqual left right
  | .lt => operandsLess left right
  | .le => operandsLess left right || operandsEqual left right
  | .gt => operandsLess right left
  | .ge => operandsLess right left || operandsEqual left right
  | .or | .and => false

end Operator

end JsonQuery

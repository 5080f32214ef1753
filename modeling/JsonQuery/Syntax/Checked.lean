import JsonQuery.Syntax.Printer
import JsonQuery.Diagnostic

/-! # Checked terms

Terms with conditions on their parts are built by the functions below, which refuse parts that do
not fit: integers that are not interoperable, conditions that cannot be tested, operands that cannot
be compared, and arguments of the wrong type.
-/

namespace JsonQuery

/-- The largest magnitude of an integer that every double-based reader keeps exactly. -/
def largestSafeInteger : Int := 9007199254740991

/-- What an integer in brackets is. -/
inductive Place where
  | index
  | sliceBound
  deriving DecidableEq, Repr

def Place.text : Place → String
  | .index => "index"
  | .sliceBound => "slice bound"

def Parameter.text : Parameter → String
  | .value => "a value"
  | .nodes => "a node list"

/-- Why parts do not fit into a term. Expressions are named by their text. -/
inductive Misfit where
  /-- An index or a bound beyond the safe integers. -/
  | unsafeInteger (place : Place) (value : Int)
  /-- A filter's condition that cannot be tested. -/
  | notCondition (condition : String)
  /-- A side of a comparison that has no single value. -/
  | notComparable (side : String)
  /-- A comparison of two literal truth values. -/
  | constantComparison
  /-- A side of a logical operator that cannot be tested. -/
  | notLogical (side : String)
  /-- A negated expression that cannot be tested. -/
  | notNegatable (operand : String)
  | tooManyArguments (function : Function)
  | tooFewArguments (function : Function)
  /-- An argument, counted from one, that its parameter does not take. -/
  | wrongArgument (position : Nat) (function : Function) (parameter : Parameter)
      (argument : String)
  deriving DecidableEq, Repr

namespace Misfit

/-- Integers are a matter of range, all else is a matter of type. -/
def kind : Misfit → ErrorKind
  | .unsafeInteger .. => .range
  | _ => .type

def callText (function : Function) : String := "`" ++ function.name ++ "()`"

def message : Misfit → String
  | .unsafeInteger place value =>
      place.text ++ " " ++ intText value ++ " is outside the range " ++
        intText (-largestSafeInteger) ++ "..=" ++ intText largestSafeInteger
  | .notCondition condition =>
      "filter condition `" ++ condition ++
        "` must be a comparison, a query or a logical function"
  | .notComparable side =>
      "`" ++ side ++
        "` cannot be compared, expected a literal, a singular query or a value function"
  | .constantComparison => "a boolean literal must be compared to an expression"
  | .notLogical side => "`" ++ side ++ "` is not a logical expression"
  | .notNegatable operand => "`" ++ operand ++ "` cannot be negated"
  | .tooManyArguments function =>
      "too many parameters for " ++ callText function ++ ", expected " ++
        natText function.parameters.length
  | .tooFewArguments function =>
      "not enough parameters for " ++ callText function ++ ", expected " ++
        natText function.parameters.length
  | .wrongArgument position function parameter argument =>
      "argument " ++ natText position ++ " of " ++ callText function ++ " must be " ++
        parameter.text ++ ", found `" ++ argument ++ "`"

end Misfit

def isSafeInteger (value : Int) : Bool :=
  -largestSafeInteger ≤ value && value ≤ largestSafeInteger

/-- Whether a parameter takes an expression. Parentheses make an expression logical, and no
    parameter takes those. -/
def Parameter.accepts : Parameter → Expr → Bool
  | .value, e => !e.isGrouped && e.isComparable
  | .nodes, e => !e.isGrouped && e.isQuery

/-- The first argument, counted from `position`, that its parameter does not take. -/
def firstWrongArgument (function : Function) (position : Nat) :
    List Parameter → List Expr → Option Misfit
  | parameter :: parameters, argument :: rest =>
      if parameter.accepts argument then
        firstWrongArgument function (position + 1) parameters rest
      else some (.wrongArgument position function parameter argument.text)
  | _, _ => none

namespace Term

def index? (value : Int) : Except Misfit Term :=
  if isSafeInteger value then .ok (.index value) else .error (.unsafeInteger .index value)

/-- The first bound that is not safe. -/
def firstUnsafe : List (Option Int) → Option Int
  | [] => none
  | none :: rest => firstUnsafe rest
  | some value :: rest => if isSafeInteger value then firstUnsafe rest else some value

def slice? (start stop step : Option Int) : Except Misfit Term :=
  match firstUnsafe [start, stop, step] with
  | none => .ok (.slice start stop step)
  | some value => .error (.unsafeInteger .sliceBound value)

def filter? (condition : Expr) : Except Misfit Term :=
  if condition.isTest then .ok (.filter condition) else .error (.notCondition condition.text)

def comparison? (operator : Operator) (left right : Expr) : Except Misfit Term :=
  if !left.isComparable then .error (.notComparable left.text)
  else if !right.isComparable then .error (.notComparable right.text)
  else if left.head.isBool && right.head.isBool then .error .constantComparison
  else .ok (.binary operator left right)

def logical? (operator : Operator) (left right : Expr) : Except Misfit Term :=
  if !left.isTest then .error (.notLogical left.text)
  else if !right.isTest then .error (.notLogical right.text)
  else .ok (.binary operator left right)

def binary? (operator : Operator) (left right : Expr) : Except Misfit Term :=
  if operator.isComparison then comparison? operator left right
  else logical? operator left right

def not? (operand : Expr) : Except Misfit Term :=
  if operand.isTest then .ok (.not operand) else .error (.notNegatable operand.text)

/-- A function with its arguments: their number comes first, then each in turn. -/
def call? (function : Function) (arguments : List Expr) : Except Misfit Term :=
  if function.parameters.length < arguments.length then .error (.tooManyArguments function)
  else if arguments.length < function.parameters.length then .error (.tooFewArguments function)
  else
    match firstWrongArgument function 1 function.parameters arguments with
    | some misfit => .error misfit
    | none => .ok (.call function arguments)

theorem index?_eq_ok_iff {value : Int} {t : Term} :
    index? value = .ok t ↔ isSafeInteger value = true ∧ t = .index value := by
  by_cases h : isSafeInteger value = true
  · simp only [index?, h, if_true, Except.ok.injEq, true_and]; exact eq_comm
  · simp [index?, h]

theorem filter?_eq_ok_iff {condition : Expr} {t : Term} :
    filter? condition = .ok t ↔ condition.isTest = true ∧ t = .filter condition := by
  by_cases h : condition.isTest = true
  · simp only [filter?, h, if_true, Except.ok.injEq, true_and]; exact eq_comm
  · simp [filter?, h]

theorem not?_eq_ok_iff {operand : Expr} {t : Term} :
    not? operand = .ok t ↔ operand.isTest = true ∧ t = .not operand := by
  by_cases h : operand.isTest = true
  · simp only [not?, h, if_true, Except.ok.injEq, true_and]; exact eq_comm
  · simp [not?, h]

end Term

end JsonQuery

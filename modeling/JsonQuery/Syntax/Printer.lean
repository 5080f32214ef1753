import JsonQuery.Syntax
import JsonQuery.Text.Quoted

/-! # Normalized text

The one text of an expression: brackets for every selector, names between single quotes, slices with
all three places, and parentheses only where operators would otherwise bind differently.
-/

namespace JsonQuery

open JsonQuery.Text

/-- A bound of a slice, empty when absent. -/
def boundText : Option Int → String
  | some value => intText value
  | none => ""

/-- A slice shows its stride even where none was given. -/
def sliceText (start stop step : Option Int) : String :=
  boundText start ++ ":" ++ boundText stop ++ ":" ++ intText (step.getD 1)

namespace Operator

/-- Whether the left operand needs parentheses: `||` under `&&` does. -/
def groupsLeft (operator : Operator) (left : Term) : Bool :=
  operator == .and && left.isOperator .or

/-- Whether the right operand needs parentheses: operators of one kind group to the left. -/
def groupsRight (operator : Operator) (right : Term) : Bool :=
  match operator with
  | .and => right.isOperator .or || right.isOperator .and
  | .or => right.isOperator .or
  | _ => false

end Operator

/-- A text in parentheses if they are needed. -/
def parenthesize (needed : Bool) (text : String) : String :=
  if needed then "(" ++ text ++ ")" else text

mutual
/-- A term as it stands in a chain. -/
def Term.text : Term → String
  | .root => "$"
  | .current => "@"
  | .name name => "[" ++ quoted name ++ "]"
  | .index index => "[" ++ intText index ++ "]"
  | .wildcard => "[*]"
  | .slice start stop step => "[" ++ sliceText start stop step ++ "]"
  | .filter condition => "[?" ++ condition.text ++ "]"
  | .child selectors => "[" ++ Expr.selectorTexts selectors ++ "]"
  | .descendant selector => "..[" ++ selector.selectorText ++ "]"
  | .binary operator left right =>
      parenthesize (operator.groupsLeft left.head) left.text ++
        (" " ++ operator.symbol ++ " ") ++
        parenthesize (operator.groupsRight right.head) right.text
  | .not operand => "!" ++ parenthesize operand.head.isBinary operand.text
  | .call function arguments => function.name ++ "(" ++ Expr.argumentTexts arguments ++ ")"
  | .string value => quoted value
  | .number value => value.text
  | .bool true => "true"
  | .bool false => "false"
  | .null => "null"

def Term.texts : List Term → String
  | [] => ""
  | term :: rest => term.text ++ Term.texts rest

/-- An expression without parentheses around it. -/
def Expr.text : Expr → String
  | .chain head links _ => head.text ++ Term.texts links

/-- A selector as it stands between brackets. -/
def Expr.selectorText : Expr → String
  | .chain (.name name) _ _ => quoted name
  | .chain (.index index) _ _ => intText index
  | .chain .wildcard _ _ => "*"
  | .chain (.slice start stop step) _ _ => sliceText start stop step
  | .chain (.filter condition) _ _ => "?" ++ condition.text
  | .chain (.child selectors) _ _ => Expr.selectorTexts selectors
  | .chain head links _ => head.text ++ Term.texts links

def Expr.selectorTexts : List Expr → String
  | [] => ""
  | [selector] => selector.selectorText
  | selector :: rest => selector.selectorText ++ ", " ++ Expr.selectorTexts rest

def Expr.argumentTexts : List Expr → String
  | [] => ""
  | [argument] => argument.text
  | argument :: rest => argument.text ++ ", " ++ Expr.argumentTexts rest
end

theorem Expr.text_group (e : Expr) : e.group.text = e.text := by
  cases e; simp [Expr.group, Expr.text]

theorem Term.texts_append (first second : List Term) :
    Term.texts (first ++ second) = Term.texts first ++ Term.texts second := by
  induction first with
  | nil => simp [Term.texts]
  | cons term rest ih => simp [Term.texts, ih, String.append_assoc]

theorem Expr.text_append (e : Expr) (more : List Term) :
    (e.append more).text = e.text ++ Term.texts more := by
  cases e; simp [Expr.append, Expr.text, Term.texts_append, String.append_assoc]

end JsonQuery

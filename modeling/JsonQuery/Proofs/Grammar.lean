import JsonQuery.Syntax.Checked
import JsonQuery.Token

/-! # The grammar of queries

The grammar says which tokens make up which phrase and what they stand for, without saying how to
find out. It has tables of its own for the operators and the signs, so that it can be read without
the parser. Operators stand on three levels: `||` on level 0, `&&` on level 1, comparisons on level
2, and the operators of one level group to the left. On level 3 there are only operands.
-/

namespace JsonQuery.Parser

inductive Phrase where
  /-- The links of a chain. -/
  | segments
  /-- Selectors in brackets, the brackets included. -/
  | bracket
  /-- Selectors with commas between them. -/
  | selectors
  | selector
  /-- An expression whose operators outside parentheses are of level `least` or above. -/
  | level (least : Nat)
  | operand
  /-- The arguments of a function, of which there may be none. -/
  | arguments
  /-- At least one argument. -/
  | moreArguments
  deriving DecidableEq, Repr

abbrev Phrase.Result : Phrase → Type
  | .segments | .selectors => List Term
  | .bracket | .selector => Term
  | .level _ | .operand => Expr
  | .arguments | .moreArguments => List Expr

/-- What a token says: the text it was decoded to, or else its own characters. -/
inductive Denotes : Token → String → Prop where
  | decoded {t : Token} {text : String} (literal : t.literal = some (.text text)) : Denotes t text
  | verbatim {t : Token} (undecoded : ∀ text, t.literal ≠ some (.text text)) : Denotes t t.lexeme

/-- A member name or a star, as they stand after dots. -/
inductive Shorthand : Token → Term → Prop where
  | name {t : Token} {name : String} (kind : t.kind = .identifier) (denotes : Denotes t name) :
      Shorthand t (.name name)
  | star {t : Token} (kind : t.kind = .star) : Shorthand t .wildcard

/-- A number token that is written as an integer. -/
structure IsInteger (t : Token) : Prop where
  kind : t.kind = .number
  nonempty : t.lexeme.toList ≠ []
  digits : ∀ c ∈ t.lexeme.toList, Text.isDigit c = true

/-- An integer in brackets with its sign. Zero has none. -/
inductive SignedInteger : List Token → Int → Prop where
  | positive {t : Token} (integer : IsInteger t) :
      SignedInteger [t] (Text.decimalValue t.lexeme.toList)
  | negative {minus t : Token} (sign : minus.kind = .minus) (integer : IsInteger t)
      (nonzero : t.lexeme ≠ "0") :
      SignedInteger [minus, t] (-(Text.decimalValue t.lexeme.toList : Int))

/-- An index or a bound of a slice: a safe integer, or nothing. -/
inductive Bound : List Token → Option Int → Prop where
  | absent : Bound [] none
  | present {ts : List Token} {value : Int} (integer : SignedInteger ts value)
      (safe : isSafeInteger value = true) : Bound ts (some value)

/-- The operators of each level and the tokens that stand for them. -/
inductive OperatorAt : Nat → Token.Kind → Operator → Prop where
  | or : OperatorAt 0 .or .or
  | and : OperatorAt 1 .and .and
  | eq : OperatorAt 2 .eq .eq
  | ne : OperatorAt 2 .ne .ne
  | lt : OperatorAt 2 .lt .lt
  | le : OperatorAt 2 .le .le
  | gt : OperatorAt 2 .gt .gt
  | ge : OperatorAt 2 .ge .ge

/-- A number and what it is behind a minus sign. Integers past 63 bits become doubles. The least
    integer stays as it is, having no opposite in 64 bits; no numeral without a sign spells it. -/
inductive Opposite : Number → Number → Prop where
  | int {value : Int} (notLeast : value ≠ Number.leastInt) (small : value < Number.signedLimit) :
      Opposite (.int value) (.int (-value))
  | least : Opposite (.int Number.leastInt) (.int Number.leastInt)
  | large {value : Int} (large : Number.signedLimit ≤ value) :
      Opposite (.int value) (.float (.neg (.ofInt value)))
  | float (value : Double) : Opposite (.float value) (.float value.neg)

/-- The literals that are words. -/
def keyword? : Token.Kind → Option Term
  | .true => some (.bool true)
  | .false => some (.bool false)
  | .null => some .null
  | _ => none

/-- The signs that begin a query. -/
def identifier? : Token.Kind → Option Term
  | .root => some .root
  | .current => some .current
  | _ => none

/-- The tokens of a phrase and what they stand for. A selector that is alone in its brackets stands
    for itself. Conditions, operands and arguments have to pass the check of the term they become a
    part of. -/
inductive Derives : (phrase : Phrase) → List Token → phrase.Result → Prop where
  | noSegments : Derives .segments [] []
  | child {dot name : Token} {ts : List Token} {term : Term} {links : List Term}
      (dotKind : dot.kind = .dot) (shorthand : Shorthand name term)
      (more : Derives .segments ts links) :
      Derives .segments (dot :: name :: ts) (term :: links)
  | descendant {dots name : Token} {ts : List Token} {term : Term} {links : List Term}
      (dotsKind : dots.kind = .doubleDot) (shorthand : Shorthand name term)
      (more : Derives .segments ts links) :
      Derives .segments (dots :: name :: ts) (.descendant (.ofTerm term) :: links)
  | children {first ts : List Token} {term : Term} {links : List Term}
      (bracket : Derives .bracket first term) (more : Derives .segments ts links) :
      Derives .segments (first ++ ts) (term :: links)
  | descendants {dots : Token} {first ts : List Token} {term : Term} {links : List Term}
      (dotsKind : dots.kind = .doubleDot) (bracket : Derives .bracket first term)
      (more : Derives .segments ts links) :
      Derives .segments (dots :: (first ++ ts)) (.descendant (.ofTerm term) :: links)
  | alone {opening closing : Token} {ts : List Token} {term : Term}
      (openingKind : opening.kind = .leftBracket) (selectors : Derives .selectors ts [term])
      (closingKind : closing.kind = .rightBracket) :
      Derives .bracket (opening :: (ts ++ [closing])) term
  | several {opening closing : Token} {ts : List Token} {terms : List Term}
      (openingKind : opening.kind = .leftBracket) (selectors : Derives .selectors ts terms)
      (many : 2 ≤ terms.length) (closingKind : closing.kind = .rightBracket) :
      Derives .bracket (opening :: (ts ++ [closing])) (.child (terms.map .ofTerm))
  | oneSelector {ts : List Token} {term : Term} (selector : Derives .selector ts term) :
      Derives .selectors ts [term]
  | moreSelectors {comma : Token} {first ts : List Token} {term : Term} {terms : List Term}
      (selector : Derives .selector first term) (commaKind : comma.kind = .comma)
      (more : Derives .selectors ts terms) :
      Derives .selectors (first ++ comma :: ts) (term :: terms)
  | name {t : Token} {name : String} (kind : t.kind = .string) (denotes : Denotes t name) :
      Derives .selector [t] (.name name)
  | wildcard {t : Token} (kind : t.kind = .star) : Derives .selector [t] .wildcard
  | filter {question : Token} {ts : List Token} {condition : Expr} {term : Term}
      (kind : question.kind = .question) (expression : Derives (.level 0) ts condition)
      (check : Term.filter? condition = .ok term) : Derives .selector (question :: ts) term
  | index {ts : List Token} {value : Int} (bound : Bound ts (some value)) :
      Derives .selector ts (.index value)
  | slice {colon : Token} {first second : List Token} {start stop : Option Int}
      (startBound : Bound first start) (colonKind : colon.kind = .colon)
      (stopBound : Bound second stop) :
      Derives .selector (first ++ colon :: second) (.slice start stop none)
  | stridedSlice {colon colon' : Token} {first second third : List Token}
      {start stop step : Option Int} (startBound : Bound first start)
      (colonKind : colon.kind = .colon) (stopBound : Bound second stop)
      (colonKind' : colon'.kind = .colon) (stepBound : Bound third step) :
      Derives .selector (first ++ colon :: (second ++ colon' :: third)) (.slice start stop step)
  | operand {ts : List Token} {e : Expr} (operand : Derives .operand ts e) :
      Derives (.level 3) ts e
  | tighter {least : Nat} {ts : List Token} {e : Expr}
      (expression : Derives (.level (least + 1)) ts e) : Derives (.level least) ts e
  | operation {least : Nat} {operator : Operator} {sign : Token} {first second : List Token}
      {left right : Expr} {term : Term} (leftSide : Derives (.level least) first left)
      (isOperator : OperatorAt least sign.kind operator)
      (rightSide : Derives (.level (least + 1)) second right)
      (check : Term.binary? operator left right = .ok term) :
      Derives (.level least) (first ++ sign :: second) (.ofTerm term)
  | group {opening closing : Token} {ts : List Token} {e : Expr}
      (openingKind : opening.kind = .leftParen) (expression : Derives (.level 0) ts e)
      (closingKind : closing.kind = .rightParen) :
      Derives .operand (opening :: (ts ++ [closing])) e.group
  | negation {sign : Token} {ts : List Token} {e : Expr} {term : Term} (kind : sign.kind = .not)
      (operand : Derives .operand ts e) (check : Term.not? e = .ok term) :
      Derives .operand (sign :: ts) (.ofTerm term)
  | query {sign : Token} {ts : List Token} {identifier : Term} {links : List Term}
      (kind : identifier? sign.kind = some identifier) (segments : Derives .segments ts links) :
      Derives .operand (sign :: ts) (.chain identifier links false)
  | string {t : Token} {text : String} (kind : t.kind = .string) (denotes : Denotes t text) :
      Derives .operand [t] (.ofTerm (.string text))
  | number {t : Token} {value : Number} (kind : t.kind = .number)
      (literal : t.literal = some (.number value)) :
      Derives .operand [t] (.ofTerm (.number value))
  | negativeNumber {minus t : Token} {value opposite : Number} (sign : minus.kind = .minus)
      (kind : t.kind = .number) (literal : t.literal = some (.number value))
      (isOpposite : Opposite value opposite) :
      Derives .operand [minus, t] (.ofTerm (.number opposite))
  | keyword {t : Token} {term : Term} (kind : keyword? t.kind = some term) :
      Derives .operand [t] (.ofTerm term)
  | call {name opening closing : Token} {ts : List Token} {function : Function}
      {arguments : List Expr} {term : Term} (kind : name.kind = .function)
      (known : Function.ofName? name.lexeme = some function)
      (openingKind : opening.kind = .leftParen) (inner : Derives .arguments ts arguments)
      (closingKind : closing.kind = .rightParen)
      (check : Term.call? function arguments = .ok term) :
      Derives .operand (name :: opening :: (ts ++ [closing])) (.ofTerm term)
  | noArguments : Derives .arguments [] []
  | arguments {ts : List Token} {arguments : List Expr}
      (more : Derives .moreArguments ts arguments) : Derives .arguments ts arguments
  | lastArgument {ts : List Token} {e : Expr} (expression : Derives (.level 0) ts e) :
      Derives .moreArguments ts [e]
  | nextArgument {comma : Token} {first ts : List Token} {e : Expr} {arguments : List Expr}
      (expression : Derives (.level 0) first e) (commaKind : comma.kind = .comma)
      (more : Derives .moreArguments ts arguments) :
      Derives .moreArguments (first ++ comma :: ts) (e :: arguments)

end JsonQuery.Parser

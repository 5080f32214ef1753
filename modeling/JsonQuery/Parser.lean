import JsonQuery.Parser.Fault
import JsonQuery.Query

/-! # From tokens to queries

Recursive descent over the list of tokens, with precedence climbing for the operators: `||` binds
weakest, then `&&`, then the comparisons, then negation, and operators of one rank group to the
left. Every function takes the tokens that are left and gives back those it did not use.
-/

namespace JsonQuery.Parser

/-- The tokens that are left. The last one marks the end of the query and is never used up. -/
abbrev Tokens := List Token

def current (ts : Tokens) : Token := ts.headD (Token.endAt 0)

def currentKind (ts : Tokens) : Token.Kind := (current ts).kind

def failAt {α : Type} (t : Token) (fault : Fault) : Except Failure α := .error (.blame t fault)

/-- A failure that tells what the next token is. -/
def unexpected {α : Type} (ts : Tokens) (fault : Found → Fault) : Except Failure α :=
  failAt (current ts) (fault (.ofToken (current ts)))

/-- A checked term, its misfit blamed on a token. -/
def checked (t : Token) : Except Misfit Term → Except Failure Term
  | .ok term => .ok term
  | .error misfit => failAt t (.misfit misfit)

/-- How tightly an operator binds. -/
def rank : Operator → Nat
  | .or => 1
  | .and => 2
  | _ => 3

/-- A negation binds more tightly than every operator. -/
def negationRank : Nat := 4

def operator? : Token.Kind → Option Operator
  | .or => some .or
  | .and => some .and
  | .eq => some .eq
  | .ne => some .ne
  | .lt => some .lt
  | .le => some .le
  | .gt => some .gt
  | .ge => some .ge
  | _ => none

/-- The next token as an operator that binds more tightly than `least`. -/
def tighterOperator? (least : Nat) (ts : Tokens) : Option Operator :=
  (operator? (currentKind ts)).filter fun operator => least < rank operator

def magnitude (negative : Bool) (t : Token) : Except Failure Nat :=
  let digits := t.lexeme.toList
  if !digits.all Text.isDigit then failAt t (.notInteger t.lexeme)
  else if negative && t.lexeme == "0" then failAt t .negativeZero
  else if digits.isEmpty ∨ Number.signedLimit ≤ Text.decimalValue digits then
    failAt t (.integerTooLarge t.lexeme)
  else .ok (Text.decimalValue digits)

/-- An integer in brackets after its sign. -/
def signedInteger (negative : Bool) (ts : Tokens) : Except Failure (Option Int × Tokens) :=
  if currentKind ts = .number then
    match magnitude negative (current ts) with
    | .error failure => .error failure
    | .ok value => .ok (some (if negative then -(value : Int) else value), ts.tail)
  else failAt (current ts) .missingNumberAfterMinus

def integer? (ts : Tokens) : Except Failure (Option Int × Tokens) :=
  match currentKind ts with
  | .minus => signedInteger true ts.tail
  | .number => signedInteger false ts
  | _ => .ok (none, ts)

/-- The third place of a slice, after the second. -/
def stride? (ts : Tokens) : Except Failure (Option Int × Tokens) :=
  if currentKind ts = .colon then integer? ts.tail else .ok (none, ts)

def indexOrSlice (ts : Tokens) : Except Failure (Term × Tokens) := do
  let (start, rest) ← integer? ts
  if currentKind rest = .colon then
    let (stop, rest) ← integer? rest.tail
    let (step, rest) ← stride? rest
    if currentKind rest = .colon then
      failAt (current rest) .tooManyBounds
    else
      let term ← checked (current ts) (Term.slice? start stop step)
      return (term, rest)
  else
    match start with
    | none => failAt (current rest) .missingIndex
    | some index =>
        let term ← checked (current ts) (Term.index? index)
        return (term, rest)

def numberOf (t : Token) : Except Failure Number :=
  match t.literal with
  | some (.number value) => .ok value
  | _ => failAt t .numberWithoutValue

/-- The number after a minus sign, which becomes part of it. Integers beyond 63 bits become doubles,
    and the least integer, whose opposite is one of those, is its own negation, as in arithmetic on
    64 bits. -/
def negated : Number → Number
  | .int value =>
      if value = Number.leastInt then .int value
      else if value < Number.signedLimit then .int (-value)
      else .float (.neg (.ofInt value))
  | .float value => .float value.neg

/-- What the selectors of one pair of brackets amount to: one by itself, several together. -/
def bracketTerm : List Term → Term
  | [selector] => selector
  | selectors => .child (selectors.map Expr.ofTerm)

/-- The operator, once its right operand is read. -/
def combine (operator : Operator) (t : Token) (left right : Expr) : Except Failure Expr :=
  (checked t (Term.binary? operator left right)).map Expr.ofTerm

/-- A member name or a star after dots. -/
def shorthand? (ts : Tokens) : Option (Term × Tokens) :=
  match currentKind ts with
  | .identifier => some (.name (current ts).text, ts.tail)
  | .star => some (.wildcard, ts.tail)
  | _ => none

mutual
/-- The segments of a chain, up to the first token that begins none. -/
def segments (fuel : Nat) (ts : Tokens) : Except Failure (List Term × Tokens) :=
  match fuel with
  | 0 => failAt (current ts) .exhausted
  | fuel + 1 =>
      match currentKind ts with
      | .dot =>
          match shorthand? ts.tail with
          | some (term, rest) => do
              let (more, rest) ← segments fuel rest
              return (term :: more, rest)
          | none => unexpected ts.tail .missingNameAfterDot
      | .doubleDot =>
          match shorthand? ts.tail with
          | some (term, rest) => do
              let (more, rest) ← segments fuel rest
              return (.descendant (.ofTerm term) :: more, rest)
          | none =>
              if currentKind ts.tail = .leftBracket then do
                let (term, rest) ← bracketed fuel ts.tail
                let (more, rest) ← segments fuel rest
                return (.descendant (.ofTerm term) :: more, rest)
              else unexpected ts.tail .missingSelectorAfterDots
      | .leftBracket => do
          let (term, rest) ← bracketed fuel ts
          let (more, rest) ← segments fuel rest
          return (term :: more, rest)
      | _ => return ([], ts)

/-- The selectors between brackets, from the opening one on. -/
def bracketed (fuel : Nat) (ts : Tokens) : Except Failure (Term × Tokens) :=
  match fuel with
  | 0 => failAt (current ts) .exhausted
  | fuel + 1 => do
      let (terms, rest) ← selectors fuel (current ts) .emptyBrackets ts.tail
      return (bracketTerm terms, rest)

/-- The selectors up to the closing bracket. `opening` is the bracket to blame if there is none, and
    `missing` the fault of a bracket that closes where a selector should be. -/
def selectors (fuel : Nat) (opening : Token) (missing : Fault) (ts : Tokens) :
    Except Failure (List Term × Tokens) :=
  match fuel with
  | 0 => failAt (current ts) .exhausted
  | fuel + 1 =>
      if currentKind ts = .rightBracket then failAt (current ts) missing
      else do
        let (term, rest) ← selector fuel ts
        match currentKind rest with
        | .comma =>
            let (more, rest) ← selectors fuel opening .trailingComma rest.tail
            return (term :: more, rest)
        | .rightBracket => return ([term], rest.tail)
        | .eof => failAt opening .unclosedBracket
        | _ => unexpected rest .missingSeparator

def selector (fuel : Nat) (ts : Tokens) : Except Failure (Term × Tokens) :=
  match fuel with
  | 0 => failAt (current ts) .exhausted
  | fuel + 1 =>
      match currentKind ts with
      | .string => return (.name (current ts).text, ts.tail)
      | .star => return (.wildcard, ts.tail)
      | .question => do
          let (condition, rest) ← expression fuel 0 ts.tail
          let term ← checked (current ts) (Term.filter? condition)
          return (term, rest)
      | .number | .minus | .colon => indexOrSlice ts
      | _ => unexpected ts .notSelector

/-- An expression whose operators bind more tightly than `least`. -/
def expression (fuel least : Nat) (ts : Tokens) : Except Failure (Expr × Tokens) :=
  match fuel with
  | 0 => failAt (current ts) .exhausted
  | fuel + 1 => do
      let (left, rest) ← operand fuel ts
      operators fuel least left rest

/-- The operators that follow a left operand, as long as they bind more tightly than `least`. -/
def operators (fuel least : Nat) (left : Expr) (ts : Tokens) : Except Failure (Expr × Tokens) :=
  match fuel with
  | 0 => failAt (current ts) .exhausted
  | fuel + 1 =>
      match tighterOperator? least ts with
      | none => return (left, ts)
      | some operator => do
          let (right, rest) ← expression fuel (rank operator) ts.tail
          let left ← combine operator (current ts) left right
          operators fuel least left rest

/-- An operand: a literal, a query, a function, a negation or a group. -/
def operand (fuel : Nat) (ts : Tokens) : Except Failure (Expr × Tokens) :=
  match fuel with
  | 0 => failAt (current ts) .exhausted
  | fuel + 1 =>
      match currentKind ts with
      | .leftParen => do
          let (inner, rest) ← expression fuel 0 ts.tail
          if currentKind rest = .rightParen then
            return (inner.group, rest.tail)
          else
            failAt (current ts) (.unbalancedParenthesis (.ofToken (current rest)))
      | .not => do
          let (inner, rest) ← expression fuel negationRank ts.tail
          let term ← checked (current ts) (Term.not? inner)
          return (.ofTerm term, rest)
      | .root => do
          let (links, rest) ← segments fuel ts.tail
          return (.chain .root links false, rest)
      | .current => do
          let (links, rest) ← segments fuel ts.tail
          return (.chain .current links false, rest)
      | .string => return (.ofTerm (.string (current ts).text), ts.tail)
      | .number => do
          let value ← numberOf (current ts)
          return (.ofTerm (.number value), ts.tail)
      | .minus =>
          if currentKind ts.tail = .number then do
            let value ← numberOf (current ts.tail)
            return (.ofTerm (.number (negated value)), ts.tail.tail)
          else failAt (current ts.tail) .missingNumberAfterMinus
      | .true => return (.ofTerm (.bool true), ts.tail)
      | .false => return (.ofTerm (.bool false), ts.tail)
      | .null => return (.ofTerm .null, ts.tail)
      | .function =>
          match Function.ofName? (current ts).lexeme with
          | none => failAt (current ts) (.unknownFunction (current ts).lexeme)
          | some function =>
              if currentKind ts.tail = .leftParen then do
                let (arguments, rest) ← arguments fuel ts.tail.tail
                if currentKind rest = .rightParen then
                  let term ← checked (current ts) (Term.call? function arguments)
                  return (.ofTerm term, rest.tail)
                else unexpected rest .unclosedArguments
              else unexpected ts.tail .missingArguments
      | .identifier => unexpected ts .bareName
      | _ => unexpected ts .notExpression

/-- The arguments up to the closing parenthesis, of which there may be none. -/
def arguments (fuel : Nat) (ts : Tokens) : Except Failure (List Expr × Tokens) :=
  match fuel with
  | 0 => failAt (current ts) .exhausted
  | fuel + 1 =>
      if currentKind ts = .rightParen then return ([], ts) else moreArguments fuel ts

def moreArguments (fuel : Nat) (ts : Tokens) : Except Failure (List Expr × Tokens) :=
  match fuel with
  | 0 => failAt (current ts) .exhausted
  | fuel + 1 => do
      let (argument, rest) ← expression fuel 0 ts
      if currentKind rest = .comma then
        let (more, rest) ← moreArguments fuel rest.tail
        return (argument :: more, rest)
      else return ([argument], rest)
end

/-- Steps enough for a list of tokens: between two of them no more than four calls are nested. -/
def budget (ts : Tokens) : Nat := 5 * ts.length + 5

/-- The chain of a whole query, from `$` to the first end mark. -/
def query (ts : Tokens) : Except Failure (List Term) := do
  if currentKind ts = .root then
    let (links, rest) ← segments (budget ts) ts.tail
    if currentKind rest = .eof then return links
    else unexpected rest .trailing
  else unexpected ts .missingRoot

/-- The tokens with an end mark behind them, which is put after the source if there is none. -/
def terminated (source : String) (ts : Tokens) : Tokens :=
  match ts.getLast? with
  | some last => if last.kind = .eof then ts else ts ++ [Token.endAt source.length]
  | none => [Token.endAt source.length]

end Parser

namespace Query

/-- The query of a list of tokens, or the report on why it is none. -/
def ofTokens (source : String) (ts : List Token) : Except Diagnostic Query :=
  match Parser.query (Parser.terminated source ts) with
  | .ok links => .ok ⟨links, source⟩
  | .error failure => .error (failure.diagnostic source)

end Query

end JsonQuery

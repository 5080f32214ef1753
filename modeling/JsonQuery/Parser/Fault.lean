import JsonQuery.Syntax.Checked
import JsonQuery.Token

/-! # What can be wrong with the tokens of a query -/

namespace JsonQuery.Parser

/-- What stands where something else was expected. -/
inductive Found where
  | endOfQuery
  | lexeme (text : String)
  deriving DecidableEq, Repr

namespace Found

def ofToken (t : Token) : Found := if t.kind = .eof then .endOfQuery else .lexeme t.lexeme

def text : Found → String
  | .endOfQuery => "end of query"
  | .lexeme text => "`" ++ text ++ "`"

end Found

/-- Why tokens are no query. -/
inductive Fault where
  /-- The query does not begin with `$`. -/
  | missingRoot (found : Found)
  /-- Something is left after the query. -/
  | trailing (found : Found)
  | missingNameAfterDot (found : Found)
  | missingSelectorAfterDots (found : Found)
  | emptyBrackets
  | trailingComma
  | unclosedBracket
  /-- Neither comma nor closing bracket after a selector. -/
  | missingSeparator (found : Found)
  | notSelector (found : Found)
  | missingIndex
  | tooManyBounds
  | missingNumberAfterMinus
  /-- A number in brackets that is not written as an integer. -/
  | notInteger (lexeme : String)
  | negativeZero
  /-- An integer in brackets that 64 bits cannot hold. -/
  | integerTooLarge (lexeme : String)
  | unbalancedParenthesis (found : Found)
  | bareName (found : Found)
  | notExpression (found : Found)
  | unknownFunction (name : String)
  | missingArguments (found : Found)
  | unclosedArguments (found : Found)
  /-- A number token that carries no number. -/
  | numberWithoutValue
  /-- Parts that do not fit together. -/
  | misfit (reason : Misfit)
  /-- The budget of steps ran out. `Parser.budget` is enough for every list of tokens. -/
  | exhausted
  deriving DecidableEq, Repr

namespace Fault

/-- The kind of a fault: most are violations of the grammar. -/
def kind : Fault → ErrorKind
  | .negativeZero | .integerTooLarge _ => .range
  | .unknownFunction _ => .name
  | .numberWithoutValue | .exhausted => .internal
  | .misfit reason => reason.kind
  | _ => .grammar

def message : Fault → String
  | .missingRoot found => "expected `$` at the start of the query, found " ++ found.text
  | .trailing found => "unexpected " ++ found.text
  | .missingNameAfterDot found =>
      "expected a member name or `*` after `.`, found " ++ found.text
  | .missingSelectorAfterDots found => "expected a selector after `..`, found " ++ found.text
  | .emptyBrackets => "empty brackets, expected a selector"
  | .trailingComma => "unexpected trailing comma"
  | .unclosedBracket => "unclosed bracket"
  | .missingSeparator found => "expected `,` or `]`, found " ++ found.text
  | .notSelector found => "unexpected " ++ found.text ++ " in brackets"
  | .missingIndex => "expected an index"
  | .tooManyBounds => "too many slice components"
  | .missingNumberAfterMinus => "expected a number after `-`"
  | .notInteger lexeme => "expected an integer, found `" ++ lexeme ++ "`"
  | .negativeZero => "negative zero is not allowed here"
  | .integerTooLarge lexeme => "integer `" ++ lexeme ++ "` is out of range"
  | .unbalancedParenthesis found => "unbalanced parenthesis, found " ++ found.text
  | .bareName found => "unexpected bare name " ++ found.text
  | .notExpression found => "expected an expression, found " ++ found.text
  | .unknownFunction name => "unknown function `" ++ name ++ "`"
  | .missingArguments found => "expected `(`, found " ++ found.text
  | .unclosedArguments found =>
      "expected `)` to close the argument list, found " ++ found.text
  | .numberWithoutValue => "number token without a value"
  | .misfit reason => reason.message
  | .exhausted => "too many steps"

end Fault

/-- A fault and the place of the token it is blamed on. -/
structure Failure where
  fault : Fault
  span : Span
  deriving DecidableEq, Repr

namespace Failure

def blame (t : Token) (fault : Fault) : Failure := ⟨fault, ⟨t.span.offset, max t.span.length 1⟩⟩

/-- The report on a failure to read the given query. -/
def diagnostic (query : String) (f : Failure) : Diagnostic :=
  ⟨f.fault.kind, f.fault.message, query, some f.span⟩

end Failure

end JsonQuery.Parser

import JsonQuery.Diagnostic
import JsonQuery.Text.Quoted

/-! # What can be wrong with the characters of a query -/

namespace JsonQuery.Token

/-- Why a text cannot be split into tokens. -/
inductive Fault where
  | leadingBlank
  | trailingBlank
  /-- No token begins with this character. -/
  | unexpectedCharacter (c : Char)
  /-- The first character of an operator of two, without the second. -/
  | incompleteOperator (first second : Char)
  | blankAfterDot
  | blankAfterMinus
  | minusWithoutNumber
  /-- A function's name separated from its arguments. -/
  | blankBeforeArguments (name : String)
  | leadingZeros
  | missingFraction
  | missingExponent
  /-- A numeral beyond every double. -/
  | numberTooLarge
  | unterminatedString
  /-- Fewer than four hexadecimal digits. -/
  | incompleteUnicodeEscape
  | loneLowSurrogate
  | loneHighSurrogate
  /-- The other kind of quote, escaped. -/
  | escapedOtherQuote (escaped quote : Char)
  | unknownEscape (escaped : Char)
  | controlCharacter (c : Char)
  deriving DecidableEq, Repr

namespace Fault

/-- Only a numeral that is too large is a fault of range. -/
def kind : Fault → ErrorKind
  | .numberTooLarge => .range
  | _ => .lexical

def message : Fault → String
  | .leadingBlank => "leading whitespace is not allowed"
  | .trailingBlank => "trailing whitespace is not allowed"
  | .unexpectedCharacter c => "unexpected character " ++ Text.charLiteral c
  | .incompleteOperator first second =>
      "unknown operator `" ++ first.toString ++ "`, did you mean `" ++ first.toString ++
        second.toString ++ "`?"
  | .blankAfterDot => "unexpected whitespace after dot"
  | .blankAfterMinus => "unexpected whitespace after minus sign"
  | .minusWithoutNumber => "a minus sign must be followed by a number"
  | .blankBeforeArguments name => "unexpected whitespace between `" ++ name ++ "` and `(`"
  | .leadingZeros => "leading zeros are not allowed in numbers"
  | .missingFraction => "expected a digit after the decimal point"
  | .missingExponent => "expected a digit in the exponent"
  | .numberTooLarge => "number out of range"
  | .unterminatedString => "unterminated string literal"
  | .incompleteUnicodeEscape => "incomplete unicode escape"
  | .loneLowSurrogate => "unexpected low surrogate without a preceding high surrogate"
  | .loneHighSurrogate => "high surrogate must be followed by a low surrogate escape"
  | .escapedOtherQuote escaped quote =>
      "invalid escape `\\" ++ escaped.toString ++ "` inside a " ++ quote.toString ++
        "-quoted string"
  | .unknownEscape escaped => "invalid escape sequence `\\" ++ escaped.toString ++ "`"
  | .controlCharacter c => "invalid character " ++ Text.charLiteral c ++ " in string literal"

end Fault

/-- A fault and where it was found, counted from some character of the query. -/
structure Misread where
  fault : Fault
  span : Span
  deriving DecidableEq, Repr

namespace Misread

/-- The same fault, counted from `distance` characters further to the left. -/
def shift (distance : Nat) (m : Misread) : Misread :=
  { m with span := ⟨distance + m.span.offset, m.span.length⟩ }

def diagnostic (query : String) (m : Misread) : Diagnostic :=
  ⟨m.fault.kind, m.fault.message, query, some m.span⟩

end Misread

end JsonQuery.Token

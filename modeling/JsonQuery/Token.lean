import JsonQuery.Diagnostic

/-! # Tokens

A query text is a sequence of tokens. Each keeps the characters it was read from and their place;
strings and numbers carry their decoded value as well.
-/

namespace JsonQuery

inductive Token.Kind where
  /-- The sign `$`. -/
  | root
  /-- The sign `@`. -/
  | current
  | dot
  | doubleDot
  | leftBracket
  | rightBracket
  | leftParen
  | rightParen
  | comma
  | colon
  /-- The question mark that opens a filter. -/
  | question
  | star
  | not
  | and
  | or
  | eq
  | ne
  | lt
  | le
  | gt
  | ge
  /-- A minus sign, directly in front of a number. -/
  | minus
  | string
  | number
  | true
  | false
  | null
  /-- A member name, or a keyword after a dot. -/
  | identifier
  /-- A name directly in front of a parenthesis. -/
  | function
  /-- The end of the query. -/
  | eof
  deriving DecidableEq, Repr

/-- The decoded value of a string or a number. -/
inductive Token.Literal where
  | text (value : String)
  | number (value : Number)
  deriving DecidableEq, Repr

structure Token where
  kind : Token.Kind
  /-- The characters the token was read from. -/
  lexeme : String
  literal : Option Token.Literal
  span : Span
  deriving DecidableEq, Repr

namespace Token

/-- The decoded string of a string token, and the characters of any other. -/
def text (t : Token) : String :=
  match t.literal with
  | some (.text value) => value
  | _ => t.lexeme

/-- The token that marks the end of a query of the given length. -/
def endAt (offset : Nat) : Token := ⟨.eof, "", none, ⟨offset, 0⟩⟩

end Token

end JsonQuery

import JsonQuery.Token.Piece
import JsonQuery.Function

/-! # Splitting a query into tokens

Blanks may stand between tokens, but neither before the first nor after the last, nor after a dot or
a minus sign, nor between a function and its parenthesis. The longest token wins; what a name stands
for depends on the token before it and the character after it.
-/

namespace JsonQuery.Token

open JsonQuery.Text

/-- Space, tab, line feed and carriage return. -/
def isBlank (c : Char) : Bool := c == ' ' || c == '\t' || c == '\n' || c == '\r'

/-- A name begins with a letter, an underscore or any character beyond ASCII. -/
def isNameFirst (c : Char) : Bool :=
  ('a' ≤ c && c ≤ 'z') || ('A' ≤ c && c ≤ 'Z') || c == '_' || '\x80' ≤ c

/-- A name goes on with digits as well. -/
def isNameChar (c : Char) : Bool := isNameFirst c || isDigit c

/-- A token of one character, or of two if `second` follows. -/
def oneOrTwo (second : Char) (one two : Kind) (rest : List Char) : Piece :=
  if rest.head? = some second then .plain two 2 else .plain one 1

/-- A token of two characters, the first of which means nothing alone. -/
def exactlyTwo (first second : Char) (kind : Kind) (rest : List Char) : Except Misread Piece :=
  if rest.head? = some second then .ok (.plain kind 2)
  else .error (misread (.incompleteOperator first second) 1)

/-- One dot or two, with no blank behind. -/
def dots (rest : List Char) : Except Misread Piece :=
  let piece := oneOrTwo '.' .dot .doubleDot rest
  if (rest.drop (piece.size - 1)).head?.any isBlank then
    .error (misread .blankAfterDot piece.size)
  else .ok piece

/-- A minus sign, with a digit behind. -/
def minusSign (rest : List Char) : Except Misread Piece :=
  match rest with
  | [] => .error (misread .minusWithoutNumber 1)
  | c :: _ =>
      if isDigit c then .ok (.plain .minus 1)
      else if isBlank c then .error (misread .blankAfterMinus 1)
      else .error (misread .minusWithoutNumber 1)

/-- A name, at the start of a text. After a dot it is a member name whatever it spells; elsewhere it
    may be a keyword or, in front of a parenthesis, a function. -/
def nameOrKeyword (previous : Option Kind) (text : List Char) : Except Misread Piece :=
  let chars := text.takeWhile isNameChar
  let after := text.dropWhile isNameChar
  let name := String.ofList chars
  let kind (k : Kind) : Except Misread Piece := .ok (.plain k chars.length)
  if previous = some .dot ∨ previous = some .doubleDot then kind .identifier
  else if name = "true" then kind .true
  else if name = "false" then kind .false
  else if name = "null" then kind .null
  else if after.head? = some '(' then kind .function
  else if (Function.ofName? name).isSome ∧ (after.dropWhile isBlank).head? = some '(' then
    .error (misread (.blankBeforeArguments name) chars.length)
  else kind .identifier

/-- The token that begins with the character `c`, followed by `rest`. -/
def pieceAt (previous : Option Kind) (c : Char) (rest : List Char) : Except Misread Piece :=
  match c with
  | '$' => .ok (.plain .root 1)
  | '@' => .ok (.plain .current 1)
  | '[' => .ok (.plain .leftBracket 1)
  | ']' => .ok (.plain .rightBracket 1)
  | '(' => .ok (.plain .leftParen 1)
  | ')' => .ok (.plain .rightParen 1)
  | ',' => .ok (.plain .comma 1)
  | ':' => .ok (.plain .colon 1)
  | '?' => .ok (.plain .question 1)
  | '*' => .ok (.plain .star 1)
  | '.' => dots rest
  | '!' => .ok (oneOrTwo '=' .not .ne rest)
  | '<' => .ok (oneOrTwo '=' .lt .le rest)
  | '>' => .ok (oneOrTwo '=' .gt .ge rest)
  | '=' => exactlyTwo '=' '=' .eq rest
  | '&' => exactlyTwo '&' '&' .and rest
  | '|' => exactlyTwo '|' '|' .or rest
  | '-' => minusSign rest
  | '"' => stringLiteral '"' rest
  | '\'' => stringLiteral '\'' rest
  | c =>
      if isDigit c then numeral (c :: rest)
      else if isNameFirst c then nameOrKeyword previous (c :: rest)
      else .error (misread (.unexpectedCharacter c) 1)

def ofPiece (offset : Nat) (c : Char) (rest : List Char) (piece : Piece) : Token :=
  { kind := piece.kind
    lexeme := String.ofList (c :: rest.take (piece.size - 1))
    literal := piece.literal
    span := ⟨offset, piece.size⟩ }

/-- The tokens of a text that begins at `offset` and follows a token of kind `previous`. -/
def tokensFrom (previous : Option Kind) (offset : Nat) (text : List Char) :
    Except Misread (List Token) :=
  match text with
  | [] => .ok [endAt offset]
  | c :: rest =>
      if isBlank c then tokensFrom previous (offset + 1) rest
      else
        match pieceAt previous c rest with
        | .error m => .error (m.shift offset)
        | .ok piece =>
            match tokensFrom (some piece.kind) (offset + piece.size)
                (rest.drop (piece.size - 1)) with
            | .error m => .error m
            | .ok tokens => .ok (ofPiece offset c rest piece :: tokens)
termination_by text.length

/-- The tokens of a query, the last of them marking its end. -/
def ofChars (query : List Char) : Except Misread (List Token) :=
  if query.head?.any isBlank then .error ⟨.leadingBlank, ⟨0, 1⟩⟩
  else if query.getLast?.any isBlank then .error ⟨.trailingBlank, ⟨query.length - 1, 1⟩⟩
  else tokensFrom none 0 query

def ofQuery (query : String) : Except Diagnostic (List Token) :=
  (ofChars query.toList).mapError (Misread.diagnostic query)

end JsonQuery.Token

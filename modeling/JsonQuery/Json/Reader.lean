import JsonQuery.Json
import JsonQuery.Text.Hex

/-! # Reading JSON text

A strict reader: one value, blanks around it, and nothing else. Nesting is limited by a parameter,
so that a caller decides how deep a document may be.
-/

namespace JsonQuery.Json.Reader

open JsonQuery.Text

/-- Space, tab, line feed and carriage return separate tokens. -/
def isBlank (c : Char) : Bool := c == ' ' || c == '\t' || c == '\n' || c == '\r'

def skipBlanks (text : List Char) : List Char := text.dropWhile isBlank

def simpleEscape? : Char → Option Char
  | '"' => some '"'
  | '\\' => some '\\'
  | '/' => some '/'
  | 'b' => some '\x08'
  | 'f' => some '\x0c'
  | 'n' => some '\n'
  | 'r' => some '\r'
  | 't' => some '\t'
  | _ => none

/-- Four hexadecimal digits and what follows them. -/
def codeUnit? : List Char → Option (Nat × List Char)
  | a :: b :: c :: d :: rest => (hexValue? [a, b, c, d]).map (·, rest)
  | _ => none

/-- The character after `\u`. A high surrogate must be followed by an escaped low one. -/
def unicodeEscape? (text : List Char) : Option (Char × List Char) :=
  match codeUnit? text with
  | none => none
  | some (unit, rest) =>
      if isHighSurrogate unit then
        match rest with
        | '\\' :: 'u' :: rest =>
            match codeUnit? rest with
            | some (low, rest) =>
                if isLowSurrogate low then some (joinSurrogates unit low, rest) else none
            | none => none
        | _ => none
      else if isLowSurrogate unit then none
      else some (Char.ofNat unit, rest)

/-- The rest of a string after its opening quote: its characters, put in front of `done` in reverse,
    and the text after the closing quote. Control characters have to be escaped. -/
def stringBody (fuel : Nat) (done : List Char) (text : List Char) : Option (String × List Char) :=
  match fuel, text with
  | 0, _ | _, [] => none
  | _ + 1, '"' :: rest => some (String.ofList done.reverse, rest)
  | fuel + 1, '\\' :: 'u' :: rest =>
      match unicodeEscape? rest with
      | some (c, rest) => stringBody fuel (c :: done) rest
      | none => none
  | fuel + 1, '\\' :: e :: rest =>
      match simpleEscape? e with
      | some c => stringBody fuel (c :: done) rest
      | none => none
  | fuel + 1, c :: rest => if c < ' ' ∨ c = '\\' then none else stringBody fuel (c :: done) rest

def string? (text : List Char) : Option (String × List Char) := stringBody text.length [] text

structure Numeral where
  negative : Bool
  whole : List Char
  /-- The digits after the point, absent without a point. -/
  fraction : Option (List Char)
  /-- The exponent, absent without its mark. -/
  exponent : Option Int

/-- A numeral without point and mark is an integer if 64 bits can hold it; all others are doubles.
    Minus zero is a double, and a number too large for a double is refused. Every decimal goes to
    the nearest double. A faster reader, which multiplies its digits by a power of ten and so rounds
    twice, may give a neighbour of that double instead; that difference is not modelled. -/
def Numeral.value? (n : Numeral) : Option Number :=
  let whole := decimalValue n.whole
  let float : Option Number :=
    let fraction := n.fraction.getD []
    (Double.ofDecimal? n.negative (decimalValue (n.whole ++ fraction))
      (n.exponent.getD 0 - fraction.length)).map .float
  if n.fraction.isSome || n.exponent.isSome then float
  else if n.negative then
    if whole ≠ 0 ∧ Number.leastInt ≤ -(whole : Int) then some (.int (-whole)) else float
  else if whole < Number.unsignedLimit then some (.int whole)
  else float

def digits? (text : List Char) : Option (List Char × List Char) :=
  match text.takeWhile isDigit with
  | [] => none
  | digits => some (digits, text.dropWhile isDigit)

def fraction? : List Char → Option (Option (List Char) × List Char)
  | '.' :: rest => (digits? rest).map fun (digits, rest) => (some digits, rest)
  | rest => some (none, rest)

def exponent? : List Char → Option (Option Int × List Char)
  | mark :: rest =>
      if mark = 'e' ∨ mark = 'E' then
        let (sign, rest) : Int × List Char :=
          match rest with
          | '-' :: rest => (-1, rest)
          | '+' :: rest => (1, rest)
          | rest => (1, rest)
        (digits? rest).map fun (digits, rest) => (some (sign * decimalValue digits), rest)
      else some (none, mark :: rest)
  | [] => some (none, [])

/-- A number; its whole part has no leading zeros. -/
def number? (text : List Char) : Option (Number × List Char) := do
  let (negative, rest) :=
    match text with
    | '-' :: rest => (true, rest)
    | rest => (false, rest)
  let (whole, rest) ← digits? rest
  if whole.head? = some '0' ∧ whole ≠ ['0'] then none
  let (fraction, rest) ← fraction? rest
  let (exponent, rest) ← exponent? rest
  let value ← Numeral.value? { negative, whole, fraction, exponent }
  return (value, rest)

def word? (word : String) (value : Json) (text : List Char) : Option (Json × List Char) :=
  (word.toList.isPrefixOf? text).map (value, ·)

mutual
/-- A value and the text after it. At most `depth` containers may be open at once; every call takes
    a character, so the length of the text is fuel enough. -/
def value? (fuel depth : Nat) (text : List Char) : Option (Json × List Char) :=
  match fuel with
  | 0 => none
  | fuel + 1 =>
      match skipBlanks text with
      | 'n' :: rest => word? "ull" .null rest
      | 't' :: rest => word? "rue" (.bool true) rest
      | 'f' :: rest => word? "alse" (.bool false) rest
      | '"' :: rest => (string? rest).map fun (s, rest) => (.string s, rest)
      | '[' :: rest =>
          if depth = 0 then none
          else
            match skipBlanks rest with
            | ']' :: rest => some (.array [], rest)
            | rest => items? fuel (depth - 1) [] rest
      | '\x7b' :: rest =>
          if depth = 0 then none
          else
            match skipBlanks rest with
            | '\x7d' :: rest => some (.object [], rest)
            | rest => members? fuel (depth - 1) [] rest
      | rest => (number? rest).map fun (n, rest) => (.number n, rest)

def items? (fuel depth : Nat) (done : List Json) (text : List Char) :
    Option (Json × List Char) :=
  match fuel with
  | 0 => none
  | fuel + 1 =>
      match value? fuel depth text with
      | none => none
      | some (item, rest) =>
          match skipBlanks rest with
          | ',' :: rest => items? fuel depth (item :: done) rest
          | ']' :: rest => some (.array (item :: done).reverse, rest)
          | _ => none

def members? (fuel depth : Nat) (done : List (String × Json)) (text : List Char) :
    Option (Json × List Char) :=
  match fuel with
  | 0 => none
  | fuel + 1 =>
      match skipBlanks text with
      | '"' :: rest =>
          match string? rest with
          | none => none
          | some (name, rest) =>
              match skipBlanks rest with
              | ':' :: rest =>
                  match value? fuel depth rest with
                  | none => none
                  | some (value, rest) =>
                      let done := insertMember name value done
                      match skipBlanks rest with
                      | ',' :: rest => members? fuel depth done rest
                      | '\x7d' :: rest => some (.object done, rest)
                      | _ => none
              | _ => none
      | _ => none
end

end Reader

open Reader in
/-- The value a text stands for, if it is JSON with at most `depth` nested containers. -/
def parse? (depth : Nat) (text : String) : Option Json :=
  let chars := text.toList
  match value? (2 * chars.length + 2) depth chars with
  | some (value, rest) => if (skipBlanks rest).isEmpty then some value else none
  | none => none

end JsonQuery.Json

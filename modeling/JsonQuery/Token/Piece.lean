import JsonQuery.Token.Fault
import JsonQuery.Token

/-! # Numerals and string literals

Each scanner looks at a text that begins with its token and says how many characters belong to it
and what they stand for. Faults are placed relative to the beginning of the token.
-/

namespace JsonQuery.Token

open JsonQuery.Text

/-- A token that begins a text: its kind, its number of characters and its decoded value. -/
structure Piece where
  kind : Kind
  size : Nat
  literal : Option Literal
  deriving DecidableEq, Repr

def Piece.plain (kind : Kind) (size : Nat) : Piece := ⟨kind, size, none⟩

/-- A fault that reaches from the beginning of the token over `length` characters. -/
def misread (fault : Fault) (length : Nat) : Misread := ⟨fault, ⟨0, length⟩⟩

/-- The value of a numeral: an exact integer if it is written as one and fits into 63 bits, else the
    nearest double. -/
def numeralValue? (whole : List Char) (fraction : Option (List Char)) (exponent : Option Int) :
    Option Number :=
  let integer := decimalValue whole
  if fraction.isNone ∧ exponent.isNone ∧ integer < Number.signedLimit then
    some (.int integer)
  else
    let digits := fraction.getD []
    (Double.ofDecimal? false (decimalValue (whole ++ digits))
      (exponent.getD 0 - digits.length)).map .float

/-- The fraction at the start of a text: the digits after a point, and what follows them. -/
def splitFraction : List Char → Option (List Char) × List Char
  | '.' :: rest => (some (rest.takeWhile isDigit), rest.dropWhile isDigit)
  | rest => (none, rest)

/-- An exponent: its sign, if one is written, and its digits. -/
structure Exponent where
  sign : Option Char
  digits : List Char

namespace Exponent

/-- The number of characters, its mark included. -/
def size (e : Exponent) : Nat := 1 + e.sign.toList.length + e.digits.length

def value (e : Exponent) : Int :=
  if e.sign = some '-' then -(decimalValue e.digits : Int) else decimalValue e.digits

end Exponent

/-- The exponent at the start of a text. -/
def exponentOf : List Char → Option Exponent
  | mark :: rest =>
      if mark = 'e' ∨ mark = 'E' then
        match rest with
        | '+' :: rest => some ⟨some '+', rest.takeWhile isDigit⟩
        | '-' :: rest => some ⟨some '-', rest.takeWhile isDigit⟩
        | rest => some ⟨none, rest.takeWhile isDigit⟩
      else none
  | [] => none

def numeral (text : List Char) : Except Misread Piece :=
  let whole := text.takeWhile isDigit
  if whole.head? = some '0' ∧ 1 < whole.length then
    .error (misread .leadingZeros 1)
  else
    let (fraction, rest) := splitFraction (text.dropWhile isDigit)
    let wholeSize := whole.length + (fraction.map (·.length + 1)).getD 0
    if fraction = some [] then
      .error (misread .missingFraction wholeSize)
    else
      let exponent := exponentOf rest
      let size := wholeSize + (exponent.map Exponent.size).getD 0
      if exponent.any (·.digits.isEmpty) then
        .error (misread .missingExponent size)
      else
        match numeralValue? whole fraction (exponent.map Exponent.value) with
        | some number => .ok ⟨.number, size, some (.number number)⟩
        | none => .error (misread .numberTooLarge size)

/-- Four hexadecimal digits at the start of a text, or how many there are. -/
def codeUnit (text : List Char) : Except Nat Nat :=
  let digits := (text.take 4).takeWhile fun c => (hexDigit? c).isSome
  if digits.length = 4 then .ok ((hexValue? digits).getD 0) else .error digits.length

/-- The character of an escape `\u` and how many characters after the `u` it takes. Faults are given
    with their length from the backslash on. -/
def unicodeEscape (text : List Char) : Except (Fault × Nat) (Char × Nat) :=
  match codeUnit text with
  | .error read => .error (.incompleteUnicodeEscape, 2 + read)
  | .ok unit =>
      if isLowSurrogate unit then .error (.loneLowSurrogate, 6)
      else if isHighSurrogate unit then
        match text.drop 4 with
        | '\\' :: 'u' :: rest =>
            match codeUnit rest with
            | .error read => .error (.incompleteUnicodeEscape, 8 + read)
            | .ok low =>
                if isLowSurrogate low then .ok (joinSurrogates unit low, 10)
                else .error (.loneHighSurrogate, 12)
        | _ => .error (.loneHighSurrogate, 6)
      else .ok (Char.ofNat unit, 4)

/-- The character of the escape `escaped`, followed by `rest`, in a literal between `quote`s, and
    how many characters of `rest` it takes. -/
def escapeIn (quote escaped : Char) (rest : List Char) : Except (Fault × Nat) (Char × Nat) :=
  match escaped with
  | 'b' => .ok ('\x08', 0)
  | 'f' => .ok ('\x0c', 0)
  | 'n' => .ok ('\n', 0)
  | 'r' => .ok ('\r', 0)
  | 't' => .ok ('\t', 0)
  | '/' => .ok ('/', 0)
  | '\\' => .ok ('\\', 0)
  | 'u' => unicodeEscape rest
  | c =>
      if c = quote then .ok (c, 0)
      else if c = '"' ∨ c = '\'' then .error (.escapedOtherQuote c quote, 2)
      else .error (.unknownEscape c, 2)

/-- The rest of a literal between `quote`s. `offset` characters of it came before the text, and
    `done` holds what they stand for, in reverse. -/
def stringBody (quote : Char) (offset : Nat) (done : List Char) (text : List Char) :
    Except Misread Piece :=
  match text with
  | [] => .error (misread .unterminatedString offset)
  | c :: rest =>
      if c = quote then
        .ok ⟨.string, offset + 1, some (.text (String.ofList done.reverse))⟩
      else if c = '\\' then
        match rest with
        | [] => .error (misread .unterminatedString (offset + 1))
        | escaped :: rest =>
            match escapeIn quote escaped rest with
            | .error (fault, length) => .error ⟨fault, ⟨offset, length⟩⟩
            | .ok (decoded, more) =>
                stringBody quote (offset + 2 + more) (decoded :: done) (rest.drop more)
      else if c < ' ' then
        .error ⟨.controlCharacter c, ⟨offset, 1⟩⟩
      else
        stringBody quote (offset + 1) (c :: done) rest
termination_by text.length

/-- The literal that follows an opening quote. -/
def stringLiteral (quote : Char) (text : List Char) : Except Misread Piece :=
  stringBody quote 1 [] text

end JsonQuery.Token

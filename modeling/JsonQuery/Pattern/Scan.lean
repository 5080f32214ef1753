import JsonQuery.Pattern.Syntax

/-! # Small pieces of regular expressions

Blanks, numbers, escapes and switches. Every scanner takes the text that is left and gives back what
remains of it, or nothing if the text is malformed. `loose` says whether blanks and comments are
skipped.
-/

namespace JsonQuery.Pattern

open JsonQuery.Text

/-- The blanks of the character database. -/
def isBlank (c : Char) : Bool :=
  let n := c.toNat
  (9 ≤ n && n ≤ 13) || n == 0x20 || n == 0x85 || n == 0xA0 || n == 0x1680 ||
    (0x2000 ≤ n && n ≤ 0x200A) || n == 0x2028 || n == 0x2029 || n == 0x202F || n == 0x205F ||
    n == 0x3000

/-- Skip blanks and comments; a comment goes from a number sign to the end of the line. -/
def skipIgnored (inComment : Bool) : List Char → List Char
  | [] => []
  | c :: rest =>
      if inComment then skipIgnored (c != '\n') rest
      else if isBlank c then skipIgnored false rest
      else if c = '#' then skipIgnored true rest
      else c :: rest

def skip (loose : Bool) (text : List Char) : List Char :=
  if loose then skipIgnored false text else text

/-- Skip what is to be ignored; something has to be left. -/
def skipTo? (loose : Bool) (text : List Char) : Option (List Char) :=
  match skip loose text with
  | [] => none
  | rest => some rest

/-- The first character that is neither blank nor the first number sign. -/
def firstShown (afterSign : Bool) : List Char → Option Char
  | [] => none
  | c :: rest =>
      if isBlank c then firstShown afterSign rest
      else if !afterSign && c == '#' then firstShown true rest
      else some c

/-- The character that a class looks ahead to. -/
def lookAhead (loose : Bool) (text : List Char) : Option Char :=
  if loose then firstShown false text <|> text.head? else text.head?

/-! ## Numbers -/

/-- A run of digits between which blanks may be ignored. -/
def digitRun (loose : Bool) (fuel : Nat) (done : List Char) (text : List Char) :
    List Char × List Char :=
  match fuel, text with
  | fuel + 1, c :: rest =>
      if isDigit c then digitRun loose fuel (c :: done) (skip loose rest)
      else (done.reverse, text)
  | _, _ => (done.reverse, text)

def skipBlanks (loose : Bool) (fuel : Nat) (text : List Char) : List Char :=
  match fuel, text with
  | fuel + 1, c :: rest => if isBlank c then skipBlanks loose fuel (skip loose rest) else text
  | _, _ => text

/-- The first number that a count cannot reach. -/
def countLimit : Nat := 4294967296

def count? (loose : Bool) (text : List Char) : Option (Nat × List Char) :=
  let (digits, rest) := digitRun loose text.length [] (text.dropWhile isBlank)
  let value := decimalValue digits
  if digits.isEmpty ∨ countLimit ≤ value then none
  else some (value, skipBlanks loose rest.length rest)

/-- The second bound of a repetition, after the first: absent without a comma, infinite if nothing
    follows the comma. -/
def upperBound? (loose : Bool) (least : Nat) (text : List Char) :
    Option (Option Nat × List Char) :=
  match text with
  | ',' :: rest =>
      match skipTo? loose rest with
      | none => none
      | some ('\x7d' :: rest) => some (none, '\x7d' :: rest)
      | some rest => (count? loose rest).map fun (most, rest) => (some most, rest)
  | text => some (some least, text)

/-- A question mark that makes a repetition lazy changes nothing else. -/
def skipLazy : List Char → List Char
  | '?' :: rest => rest
  | rest => rest

def bounds? (loose : Bool) (text : List Char) : Option (Nat × Option Nat × List Char) := do
  let text ← skipTo? loose text
  let (least, text) ← count? loose text
  let (most, text) ← upperBound? loose least text
  match text with
  | '\x7d' :: rest =>
      if most.all fun most => least ≤ most then
        some (least, most, skipLazy (skip loose rest))
      else none
  | _ => none

/-! ## Escapes -/

/-- What an escape stands for. -/
inductive Primitive where
  | literal (l : Literal)
  | assertion (kind : Assertion)
  | short (kind : ShortClass) (negated : Bool)
  | property (name : PropertyName) (negated : Bool)
  deriving Repr

def Primitive.char (c : Char) : Primitive := .literal ⟨c, false⟩

/-- The character of a code in hexadecimal, if it is one. -/
def scalar? (digits : List Char) : Option Char :=
  match hexValue? digits with
  | some value =>
      if value < 0x110000 ∧ ¬(0xD800 ≤ value ∧ value < 0xE000) then some (Char.ofNat value)
      else none
  | none => none

def fixedHex? (loose : Bool) (done : List Char) : Nat → List Char →
    Option (List Char × List Char)
  | 0, text => some (done.reverse, text)
  | more + 1, c :: rest =>
      if (hexDigit? c).isSome then fixedHex? loose (c :: done) more (skip loose rest) else none
  | _ + 1, [] => none

def bracedHex? (loose : Bool) (fuel : Nat) (done : List Char) (text : List Char) :
    Option (List Char × List Char) :=
  match fuel, text with
  | _, '\x7d' :: rest => some (done.reverse, skip loose rest)
  | fuel + 1, c :: rest =>
      if (hexDigit? c).isSome then bracedHex? loose fuel (c :: done) (skip loose rest) else none
  | _, _ => none

/-- The character of a code, after the letter that announces `digits` digits. -/
def hexEscape? (loose : Bool) (digits : Nat) (text : List Char) :
    Option (Primitive × List Char) := do
  let text ← skipTo? loose text
  match text with
  | '\x7b' :: rest =>
      let (code, rest) ← bracedHex? loose rest.length [] (skip loose rest)
      let c ← scalar? code
      if code.isEmpty then none else some (.char c, rest)
  | text =>
      let (code, rest) ← fixedHex? loose [] digits text
      let c ← scalar? code
      return (.literal ⟨c, digits == 2⟩, rest)

def braced? (loose : Bool) (fuel : Nat) (done : List Char) (text : List Char) :
    Option (List Char × List Char) :=
  match fuel, text with
  | _, '\x7d' :: rest => some (done.reverse, rest)
  | fuel + 1, c :: rest => braced? loose fuel (c :: done) (skip loose rest)
  | _, _ => none

/-- The text before and after the first occurrence of a separator. -/
def splitAt? (separator : List Char) (before : List Char) : List Char →
    Option (List Char × List Char)
  | [] => none
  | c :: rest =>
      match separator.isPrefixOf? (c :: rest) with
      | some after => some (before.reverse, after)
      | none => splitAt? separator (c :: before) rest

def propertyName (text : List Char) : PropertyName :=
  match splitAt? ['!', '='] [] text <|> splitAt? [':'] [] text <|> splitAt? ['='] [] text with
  | some (name, value) => .valued name value
  | none => .alone text

/-- A property, after the letter that announces it. -/
def propertyEscape? (loose negated : Bool) (text : List Char) :
    Option (Primitive × List Char) := do
  let text ← skipTo? loose text
  match text with
  | '\x7b' :: rest =>
      let (name, rest) ← braced? loose rest.length [] (skip loose rest)
      return (.property (propertyName name) negated, rest)
  | c :: rest => if c = '\\' then none else some (.property (.alone [c]) negated, rest)
  | [] => none

/-- A letter or a hyphen, as in the names of word boundaries. -/
def isBoundaryChar (c : Char) : Bool :=
  ('a' ≤ c && c ≤ 'z') || ('A' ≤ c && c ≤ 'Z') || c == '-'

def boundaryName (loose : Bool) (fuel : Nat) (done : List Char) (text : List Char) :
    List Char × List Char :=
  match fuel, text with
  | fuel + 1, c :: rest =>
      if isBoundaryChar c then boundaryName loose fuel (c :: done) (skip loose rest)
      else (done.reverse, text)
  | _, _ => (done.reverse, text)

def boundary? (name : String) : Option Assertion :=
  if name = "start" then some .wordStart
  else if name = "end" then some .wordEnd
  else if name = "start-half" then some .wordStartHalf
  else if name = "end-half" then some .wordEndHalf
  else none

/-- A word boundary may have a name in braces. Braces that do not begin with a letter or a hyphen
    are left for a repetition. -/
def boundaryEscape? (loose : Bool) (text : List Char) : Option (Primitive × List Char) :=
  match text with
  | '\x7b' :: rest =>
      match skip loose rest with
      | [] => none
      | c :: rest =>
          if isBoundaryChar c then
            match boundaryName loose (rest.length + 1) [] (c :: rest) with
            | (name, '\x7d' :: rest) =>
                (boundary? (String.ofList name)).map fun kind => (.assertion kind, rest)
            | _ => none
          else some (.assertion .wordBoundary, text)
  | text => some (.assertion .wordBoundary, text)

/-- The characters with a meaning of their own. -/
def isMeta (c : Char) : Bool :=
  ['\\', '.', '+', '*', '?', '(', ')', '|', '[', ']', '\x7b', '\x7d', '^', '$', '#', '&', '-',
    '~'].contains c

/-- The characters that may be escaped without need: all of ASCII but letters, digits and angle
    brackets. -/
def isEscapable (c : Char) : Bool :=
  c.toNat < 128 && !c.isAlphanum && c != '<' && c != '>'

/-- What a backslash and the text after it stand for. -/
def escape? (loose : Bool) (text : List Char) : Option (Primitive × List Char) :=
  match text with
  | [] => none
  | c :: rest =>
      match c with
      | 'x' => hexEscape? loose 2 rest
      | 'u' => hexEscape? loose 4 rest
      | 'U' => hexEscape? loose 8 rest
      | 'p' => propertyEscape? loose false rest
      | 'P' => propertyEscape? loose true rest
      | 'd' => some (.short .digit false, rest)
      | 'D' => some (.short .digit true, rest)
      | 's' => some (.short .space false, rest)
      | 'S' => some (.short .space true, rest)
      | 'w' => some (.short .word false, rest)
      | 'W' => some (.short .word true, rest)
      | 'a' => some (.char '\x07', rest)
      | 'f' => some (.char '\x0c', rest)
      | 't' => some (.char '\t', rest)
      | 'n' => some (.char '\n', rest)
      | 'r' => some (.char '\r', rest)
      | 'v' => some (.char '\x0b', rest)
      | 'A' => some (.assertion .textStart, rest)
      | 'z' => some (.assertion .textEnd, rest)
      | 'b' => boundaryEscape? loose rest
      | 'B' => some (.assertion .noWordBoundary, rest)
      | '<' => some (.assertion .wordStart, rest)
      | '>' => some (.assertion .wordEnd, rest)
      | c => if isMeta c || isEscapable c then some (.char c, rest) else none

/-! ## Switches and names of groups -/

def flag? : Char → Option Flag
  | 'i' => some .caseInsensitive
  | 'm' => some .multiLine
  | 's' => some .dotMatchesNewLine
  | 'U' => some .swapGreed
  | 'u' => some .unicode
  | 'R' => some .crlf
  | 'x' => some .ignoreWhitespace
  | _ => none

/-- The switches of a group and what follows them. Every switch may appear once, and a minus sign,
    after which switches are turned off, needs one behind it. -/
def flags? (negated dangling : Bool) (done : FlagChanges) : List Char →
    Option (FlagChanges × List Char)
  | [] => none
  | c :: rest =>
      if c = ':' ∨ c = ')' then if dangling then none else some (done.reverse, c :: rest)
      else if c = '-' then if negated then none else flags? true true done rest
      else
        match flag? c with
        | some flag =>
            if done.any (·.1 == flag) then none
            else flags? negated false ((flag, !negated) :: done) rest
        | none => none

def isGroupNameChar (first : Bool) (c : Char) : Bool :=
  if first then c == '_' || Unicode.alphabetic.contains c.toNat
  else
    c == '_' || c == '.' || c == '[' || c == ']' || Unicode.alphanumeric.contains c.toNat

def groupName? (text : List Char) : Option (List Char × List Char) :=
  match text.takeWhile (· != '>'), text.dropWhile (· != '>') with
  | first :: name, '>' :: rest =>
      if isGroupNameChar true first && name.all (isGroupNameChar false) then
        some (first :: name, rest)
      else none
  | _, _ => none

end JsonQuery.Pattern

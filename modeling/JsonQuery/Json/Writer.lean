import JsonQuery.Json
import JsonQuery.Text.Hex

/-! # Writing JSON text

Both forms write the same tokens: `compact` without any blanks, `pretty` with one item or member on
a line and two blanks for each level of nesting.
-/

namespace JsonQuery.Json

open JsonQuery.Text

/-- A character inside a string. Quotes, backslashes and control characters are escaped, nothing
    else is. -/
def escapeChar (c : Char) : List Char :=
  match c with
  | '"' => ['\\', '"']
  | '\\' => ['\\', '\\']
  | '\x08' => ['\\', 'b']
  | '\x0c' => ['\\', 'f']
  | '\n' => ['\\', 'n']
  | '\r' => ['\\', 'r']
  | '\t' => ['\\', 't']
  | c => if c < ' ' then '\\' :: 'u' :: hexText4 c else [c]

def quoteString (s : String) : String :=
  String.ofList ('"' :: (s.toList.flatMap escapeChar ++ ['"']))

/-- A scalar, and the empty brackets of a container. -/
def scalarText : Json → String
  | .null => "null"
  | .bool true => "true"
  | .bool false => "false"
  | .number n => n.text
  | .string s => quoteString s
  | .array _ => "[]"
  | .object _ => "\x7b\x7d"

mutual
def compact : Json → String
  | .array items => "[" ++ compactItems items ++ "]"
  | .object members => "\x7b" ++ compactMembers members ++ "\x7d"
  | scalar => scalar.scalarText

def compactItems : List Json → String
  | [] => ""
  | [item] => item.compact
  | item :: rest => item.compact ++ "," ++ compactItems rest

def compactMembers : List (String × Json) → String
  | [] => ""
  | [(name, value)] => quoteString name ++ ":" ++ value.compact
  | (name, value) :: rest =>
      quoteString name ++ ":" ++ value.compact ++ "," ++ compactMembers rest
end

/-- The start of a line at a level of nesting. -/
def lineStart (level : Nat) : String :=
  String.ofList ('\n' :: List.replicate (2 * level) ' ')

mutual
/-- The value over several lines, its first line standing at the given level. -/
def prettyAt (level : Nat) : Json → String
  | .array [] => "[]"
  | .array items => "[" ++ prettyItems (level + 1) items ++ lineStart level ++ "]"
  | .object [] => "\x7b\x7d"
  | .object members =>
      "\x7b" ++ prettyMembers (level + 1) members ++ lineStart level ++ "\x7d"
  | scalar => scalar.scalarText

def prettyItems (level : Nat) : List Json → String
  | [] => ""
  | [item] => lineStart level ++ item.prettyAt level
  | item :: rest => lineStart level ++ item.prettyAt level ++ "," ++ prettyItems level rest

def prettyMembers (level : Nat) : List (String × Json) → String
  | [] => ""
  | [(name, value)] => lineStart level ++ quoteString name ++ ": " ++ value.prettyAt level
  | (name, value) :: rest =>
      lineStart level ++ quoteString name ++ ": " ++ value.prettyAt level ++ "," ++
        prettyMembers level rest
end

def pretty (value : Json) : String := value.prettyAt 0

end JsonQuery.Json

import JsonQuery.Text.Hex

/-! # Quoted text

Names stand between single quotes in normalized queries and paths; a quote, a backslash and the
control characters below space are escaped, the latter in lower-case hexadecimal where they have no
letter of their own.
-/

namespace JsonQuery.Text

def quotedChar (c : Char) : List Char :=
  match c with
  | '\x08' => ['\\', 'b']
  | '\x0c' => ['\\', 'f']
  | '\n' => ['\\', 'n']
  | '\r' => ['\\', 'r']
  | '\t' => ['\\', 't']
  | '\'' => ['\\', '\'']
  | '\\' => ['\\', '\\']
  | c => if c < ' ' then '\\' :: 'u' :: hexText4 c else [c]

def quotedChars (name : List Char) : List Char :=
  '\'' :: (name.flatMap quotedChar ++ ['\''])

def quoted (name : String) : String := String.ofList (quotedChars name.toList)

/-- A single ASCII character as messages show it: between single quotes, control characters as
    escapes. -/
def charLiteral (c : Char) : String :=
  let shown : List Char :=
    match c with
    | '\x00' => ['\\', '0']
    | '\t' => ['\\', 't']
    | '\n' => ['\\', 'n']
    | '\r' => ['\\', 'r']
    | '\'' => ['\\', '\'']
    | '\\' => ['\\', '\\']
    | c =>
        if c < ' ' ∨ c = '\x7f' then '\\' :: 'u' :: '\x7b' :: (hexText c ++ ['\x7d']) else [c]
  String.ofList ('\'' :: (shown ++ ['\'']))

end JsonQuery.Text

/-! # Patterns of queries as regular expressions

A dot in a query's pattern stands for every character but line feed and carriage return. Outside
character classes it is written out as such a class; escaped characters and everything else stay as
they are. A pattern that has to match a whole text is put between anchors.
-/

namespace JsonQuery.Pattern

/-- The class that a free dot is written out as. -/
def dotClass : List Char := ['[', '^', '\\', 'n', '\\', 'r', ']']

/-- A pattern with its free dots written out; `inClass` says whether a class is open. -/
def expandDots (inClass : Bool) : List Char → List Char
  | [] => []
  | ['\\'] => ['\\']
  | '\\' :: c :: rest => '\\' :: c :: expandDots inClass rest
  | c :: rest =>
      if c = '[' ∧ !inClass then c :: expandDots true rest
      else if c = ']' ∧ inClass then c :: expandDots false rest
      else if c = '.' ∧ !inClass then dotClass ++ expandDots inClass rest
      else c :: expandDots inClass rest

def anchor (pattern : List Char) : List Char :=
  ['^', '(', '?', ':'] ++ pattern ++ [')', '$']

/-- The regular expression of a pattern, for a whole text if `anchored`. -/
def expand (anchored : Bool) (pattern : List Char) : List Char :=
  let expanded := expandDots false pattern
  if anchored then anchor expanded else expanded

def expandedText (anchored : Bool) (pattern : String) : String :=
  String.ofList (expand anchored pattern.toList)

end JsonQuery.Pattern

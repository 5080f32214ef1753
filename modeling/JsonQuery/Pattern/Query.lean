import JsonQuery.Pattern.Expansion
import JsonQuery.Pattern.Parser
import JsonQuery.Pattern.Meaning
import JsonQuery.Pattern.Matcher
import JsonQuery.Pattern.Size

/-! # Patterns in queries -/

namespace JsonQuery.Pattern

def ofRegex? (expression : List Char) : Option Pattern :=
  match Regex.ofChars? expression with
  | some regex => ((regex.pattern? .initial).map Prod.fst).filter isSmall
  | none => none

def ofText? (anchored : Bool) (pattern : String) : Option Pattern :=
  ofRegex? (expand anchored pattern.toList)

/-- Whether the text of a pattern is a regular expression once it is written out. -/
def isValid (anchored : Bool) (pattern : String) : Bool := (ofText? anchored pattern).isSome

/-- Whether a pattern matches a text. An expression that is malformed matches nothing. -/
def test (anchored : Bool) (pattern text : String) : Bool :=
  match ofText? anchored pattern with
  | some pattern => pattern.matchesWithin text.toList
  | none => false

end JsonQuery.Pattern

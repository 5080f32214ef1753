import JsonQuery.Unicode.PointSet

/-! # Patterns

A pattern is a regular expression with its switches worked in: every class has become a set of code
points, and every anchor a condition on the characters beside a position. Which of several matches
a repetition prefers is of no concern here, since only the fact of a match is asked for.
-/

namespace JsonQuery

/-- A condition on a position in a text. -/
inductive Look where
  | textStart
  | textEnd
  /-- At the start of a text or after a line feed. -/
  | lineStart
  /-- At the end of a text or before a line feed. -/
  | lineEnd
  /-- At the start of a text or after a line feed or a carriage return, but not between the two. -/
  | crlfStart
  /-- At the end of a text or before a line feed or a carriage return, but not between the two. -/
  | crlfEnd
  /-- Exactly one neighbour belongs to a word. -/
  | boundary (word : Unicode.PointSet)
  | noBoundary (word : Unicode.PointSet)
  /-- Only the character behind belongs to a word. -/
  | wordStart (word : Unicode.PointSet)
  /-- Only the character in front belongs to a word. -/
  | wordEnd (word : Unicode.PointSet)
  /-- The character in front belongs to no word. -/
  | wordStartHalf (word : Unicode.PointSet)
  /-- The character behind belongs to no word. -/
  | wordEndHalf (word : Unicode.PointSet)
  deriving Repr

/-- What a text can match. -/
inductive Pattern where
  /-- No characters. -/
  | empty
  /-- One character of a set. -/
  | set (set : Unicode.PointSet)
  /-- No characters, at a position that meets a condition. -/
  | look (look : Look)
  /-- One after the other. -/
  | seq (first second : Pattern)
  /-- One or the other. -/
  | either (first second : Pattern)
  /-- At least `least` and at most `most` times the same. -/
  | repetition (least : Nat) (most : Option Nat) (body : Pattern)
  /-- A part whose place is remembered. It matches what its body matches. -/
  | group (body : Pattern)
  deriving Repr

namespace Look

/-- Whether a neighbour is there and belongs to a set. -/
def within (set : Unicode.PointSet) (c : Option Char) : Bool := c.any fun c => set.contains c.toNat

/-- Whether a position between two characters, either of which may be missing, meets a condition. -/
def holds (look : Look) (before after : Option Char) : Bool :=
  match look with
  | .textStart => before.isNone
  | .textEnd => after.isNone
  | .lineStart => before.all (· == '\n')
  | .lineEnd => after.all (· == '\n')
  | .crlfStart => before.all fun c => c == '\n' || (c == '\r' && after != some '\n')
  | .crlfEnd => after.all fun c => c == '\r' || (c == '\n' && before != some '\r')
  | .boundary word => within word before != within word after
  | .noBoundary word => within word before == within word after
  | .wordStart word => !within word before && within word after
  | .wordEnd word => within word before && !within word after
  | .wordStartHalf word => !within word before
  | .wordEndHalf word => !within word after

end Look

namespace Pattern

def sequence (parts : List Pattern) : Pattern := parts.foldr .seq .empty

def oneOf : List Pattern → Pattern
  | [] => .empty
  | [branch] => branch
  | branch :: rest => .either branch (oneOf rest)

end Pattern

end JsonQuery

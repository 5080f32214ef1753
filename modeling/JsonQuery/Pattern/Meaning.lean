import JsonQuery.Pattern
import JsonQuery.Pattern.Syntax

/-! # What a regular expression means

Switches are carried from left to right and hold up to the end of their group, also across its
branches. Where Unicode is switched off, classes are sets of bytes, and a class that holds bytes
beyond ASCII is refused, as it could split a character.
-/

namespace JsonQuery.Pattern

open JsonQuery.Unicode

structure Switches where
  caseInsensitive : Bool
  multiLine : Bool
  dotMatchesNewLine : Bool
  unicode : Bool
  crlf : Bool
  deriving DecidableEq, Repr

namespace Switches

def initial : Switches := ⟨false, false, false, true, false⟩

def set (s : Switches) (flag : Flag) (on : Bool) : Switches :=
  match flag with
  | .caseInsensitive => { s with caseInsensitive := on }
  | .multiLine => { s with multiLine := on }
  | .dotMatchesNewLine => { s with dotMatchesNewLine := on }
  | .unicode => { s with unicode := on }
  | .crlf => { s with crlf := on }
  | .swapGreed | .ignoreWhitespace => s

def apply (s : Switches) (changes : FlagChanges) : Switches :=
  changes.foldl (fun s (flag, on) => s.set flag on) s

end Switches

/-- The code points of a character range. -/
def span (first last : Char) : Nat × Nat := (first.toNat, last.toNat)

def AsciiClass.ranges : AsciiClass → RangeSet
  | .alnum => [span '0' '9', span 'A' 'Z', span 'a' 'z']
  | .alpha => [span 'A' 'Z', span 'a' 'z']
  | .ascii => [(0, 127)]
  | .blank => [span '\t' '\t', span ' ' ' ']
  | .cntrl => [(0, 31), (127, 127)]
  | .digit => [span '0' '9']
  | .graph => [span '!' '~']
  | .lower => [span 'a' 'z']
  | .print => [span ' ' '~']
  | .punct => [(33, 47), (58, 64), (91, 96), (123, 126)]
  | .space => [(9, 13), span ' ' ' ']
  | .upper => [span 'A' 'Z']
  | .word => [span '0' '9', span 'A' 'Z', span '_' '_', span 'a' 'z']
  | .xdigit => [span '0' '9', span 'A' 'F', span 'a' 'f']

def ShortClass.ascii : ShortClass → AsciiClass
  | .digit => .digit
  | .space => .space
  | .word => .word

def ShortClass.set (kind : ShortClass) (unicode : Bool) : PointSet :=
  if unicode then
    match kind with
    | .digit => digits
    | .space => whiteSpace
    | .word => wordCharacters
  else .ranges kind.ascii.ranges

/-- The characters that word boundaries look at. -/
def wordSet (s : Switches) : PointSet := ShortClass.word.set s.unicode

def PropertyName.set? : PropertyName → Option PointSet
  | .alone name => namedSet? name
  | .valued name value => valuedSet? name value

/-- A set with the case variants of its points, if case does not count. -/
def withVariants (s : Switches) (set : PointSet) : PointSet :=
  if s.caseInsensitive then if s.unicode then .anyCase set else .anyAsciiCase set else set

/-- A set, unless it holds bytes beyond ASCII. -/
def byteSafe? (s : Switches) (set : PointSet) : Option PointSet :=
  if s.unicode || set.isAscii then some set else none

def negateIf (negated : Bool) (set : PointSet) : PointSet := if negated then .compl set else set

/-- A class with its case variants, then negated. -/
def finish? (s : Switches) (negated : Bool) (set : PointSet) : Option PointSet :=
  byteSafe? s (negateIf negated (withVariants s set))

/-- The class of a letter; negation comes without case variants. -/
def shortSet? (s : Switches) (kind : ShortClass) (negated : Bool) : Option PointSet :=
  byteSafe? s (negateIf negated (kind.set s.unicode))

/-- The set of a property, which only Unicode has. -/
def propertySet? (s : Switches) (name : PropertyName) (negated : Bool) : Option PointSet :=
  if s.unicode then (name.set?).bind (finish? s negated) else none

/-- The code point of a literal in a class; where Unicode is switched off, only ASCII has one. -/
def classPoint? (s : Switches) (l : Literal) : Option Nat :=
  if s.unicode || l.char.toNat < 128 then some l.char.toNat else none

def SetOperator.join : SetOperator → PointSet → PointSet → PointSet
  | .intersection => .inter
  | .difference => .diff
  | .symmetricDifference => .symmDiff

mutual
def CharClass.set? (s : Switches) : CharClass → Option PointSet
  | .literal l => (classPoint? s l).map .single
  | .range first last =>
      match classPoint? s first, classPoint? s last with
      | some low, some high => some (.ranges [(low, high)])
      | _, _ => none
  | .short kind negated => shortSet? s kind negated
  | .ascii kind negated => finish? s negated (.ranges kind.ranges)
  | .property name negated => propertySet? s name negated
  | .bracketed negated body => (body.set? s).bind (finish? s negated)
  | .union parts => (CharClass.sets? s parts).map .unions
  | .operation operator left right =>
      match left.set? s, right.set? s with
      | some left, some right =>
          some (operator.join (withVariants s left) (withVariants s right))
      | _, _ => none

def CharClass.sets? (s : Switches) : List CharClass → Option (List PointSet)
  | [] => some []
  | part :: rest =>
      match part.set? s, CharClass.sets? s rest with
      | some points, some others => some (points :: others)
      | _, _ => none
end

/-- A literal outside classes. A byte beyond ASCII is no character. -/
def literalPattern? (s : Switches) (l : Literal) : Option Pattern :=
  let ascii := decide (l.char.toNat < 128)
  if s.unicode || ascii then some (.set (withVariants s (.single l.char.toNat)))
  else if l.isByte then none
  else some (.set (.single l.char.toNat))

/-- A dot; where Unicode is switched off it would split characters. -/
def dotPattern? (s : Switches) : Option Pattern :=
  if !s.unicode then none
  else if s.dotMatchesNewLine then some (.set (.compl .empty))
  else if s.crlf then some (.set (.compl (.ranges [span '\n' '\n', span '\r' '\r'])))
  else some (.set (.compl (.single '\n'.toNat)))

def Assertion.look (s : Switches) : Assertion → Look
  | .lineStart =>
      if !s.multiLine then .textStart else if s.crlf then .crlfStart else .lineStart
  | .lineEnd => if !s.multiLine then .textEnd else if s.crlf then .crlfEnd else .lineEnd
  | .textStart => .textStart
  | .textEnd => .textEnd
  | .wordBoundary => .boundary (wordSet s)
  | .noWordBoundary => .noBoundary (wordSet s)
  | .wordStart => .wordStart (wordSet s)
  | .wordEnd => .wordEnd (wordSet s)
  | .wordStartHalf => .wordStartHalf (wordSet s)
  | .wordEndHalf => .wordEndHalf (wordSet s)

/-- A set as a pattern, the switches unchanged. -/
def keep (s : Switches) (pattern : Option Pattern) : Option (Pattern × Switches) :=
  pattern.map (·, s)

mutual
/-- The pattern of an expression, and the switches after it. -/
def Regex.pattern? (s : Switches) : Regex → Option (Pattern × Switches)
  | .empty => some (.empty, s)
  | .literal l => keep s (literalPattern? s l)
  | .dot => keep s (dotPattern? s)
  | .assertion kind => some (.look (kind.look s), s)
  | .short kind negated => keep s ((shortSet? s kind negated).map .set)
  | .property name negated => keep s ((propertySet? s name negated).map .set)
  | .bracketed negated body =>
      keep s (((body.set? s).bind (finish? s negated)).map .set)
  | .flags changes => some (.empty, s.apply changes)
  | .repetition least most body =>
      match body.pattern? s with
      | some (pattern, after) => some (.repetition least most pattern, after)
      | none => none
  | .group numbered changes body =>
      match body.pattern? (s.apply changes) with
      | some (pattern, _) => some (if numbered then .group pattern else pattern, s)
      | none => none
  | .concatenation parts =>
      match Regex.patterns? s parts with
      | some (patterns, after) => some (.sequence patterns, after)
      | none => none
  | .alternation branches =>
      match Regex.patterns? s branches with
      | some (patterns, after) => some (.oneOf patterns, after)
      | none => none

/-- The patterns of several expressions, each with the switches the one before has left. -/
def Regex.patterns? (s : Switches) : List Regex → Option (List Pattern × Switches)
  | [] => some ([], s)
  | part :: rest =>
      match part.pattern? s with
      | none => none
      | some (pattern, after) =>
          match Regex.patterns? after rest with
          | some (patterns, last) => some (pattern :: patterns, last)
          | none => none
end

end JsonQuery.Pattern

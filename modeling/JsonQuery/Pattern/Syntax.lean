import JsonQuery.Unicode.Derived

/-! # The syntax of regular expressions -/

namespace JsonQuery.Pattern

/-- A character that stands for itself. -/
structure Literal where
  char : Char
  /-- Written as a backslash, `x` and two digits, which can also mean a byte. -/
  isByte : Bool
  deriving DecidableEq, Repr

/-- The classes of one letter. -/
inductive ShortClass where
  | digit
  | space
  | word
  deriving DecidableEq, Repr

/-- The classes that are written as a word between colons. -/
inductive AsciiClass where
  | alnum
  | alpha
  | ascii
  | blank
  | cntrl
  | digit
  | graph
  | lower
  | print
  | punct
  | space
  | upper
  | word
  | xdigit
  deriving DecidableEq, Repr

inductive PropertyName where
  | alone (name : List Char)
  | valued (name value : List Char)
  deriving DecidableEq, Repr

/-- The operators between sets in a class. -/
inductive SetOperator where
  | intersection
  | difference
  | symmetricDifference
  deriving DecidableEq, Repr

inductive CharClass where
  | literal (l : Literal)
  | range (first last : Literal)
  | short (kind : ShortClass) (negated : Bool)
  | ascii (kind : AsciiClass) (negated : Bool)
  | property (name : PropertyName) (negated : Bool)
  /-- Brackets, with what is in them. -/
  | bracketed (negated : Bool) (body : CharClass)
  /-- Any number of parts but one. -/
  | union (parts : List CharClass)
  | operation (operator : SetOperator) (left right : CharClass)
  deriving Repr

inductive Assertion where
  | lineStart
  | lineEnd
  | textStart
  | textEnd
  | wordBoundary
  | noWordBoundary
  | wordStart
  | wordEnd
  | wordStartHalf
  | wordEndHalf
  deriving DecidableEq, Repr

inductive Flag where
  | caseInsensitive
  | multiLine
  | dotMatchesNewLine
  | swapGreed
  | unicode
  | crlf
  | ignoreWhitespace
  deriving DecidableEq, Repr

/-- Switches that are turned on or off. -/
abbrev FlagChanges := List (Flag × Bool)

inductive Regex where
  | empty
  | literal (l : Literal)
  | dot
  | assertion (kind : Assertion)
  | short (kind : ShortClass) (negated : Bool)
  | property (name : PropertyName) (negated : Bool)
  | bracketed (negated : Bool) (body : CharClass)
  /-- Switches that hold up to the end of the group. -/
  | flags (changes : FlagChanges)
  /-- At least `least` and at most `most` times the same. -/
  | repetition (least : Nat) (most : Option Nat) (body : Regex)
  /-- A group, with switches that hold inside; `numbered` says that its place is remembered. -/
  | group (numbered : Bool) (changes : FlagChanges) (body : Regex)
  | concatenation (parts : List Regex)
  | alternation (branches : List Regex)
  deriving Repr

mutual
/-- How deeply brackets, unions and operators are nested. -/
def CharClass.depth : CharClass → Nat
  | .literal _ | .range .. | .short .. | .ascii .. | .property .. => 0
  | .bracketed _ body => body.depth + 1
  | .union [] => 0
  | .union parts => CharClass.depthAll parts + 1
  | .operation _ left right => max left.depth right.depth + 1

/-- The greatest depth of some parts. -/
def CharClass.depthAll : List CharClass → Nat
  | [] => 0
  | part :: rest => max part.depth (CharClass.depthAll rest)
end

mutual
/-- How deeply groups, repetitions, sequences, alternatives and classes are nested. -/
def Regex.depth : Regex → Nat
  | .empty | .literal _ | .dot | .assertion _ | .short .. | .property .. | .flags _ => 0
  | .bracketed _ body => body.depth + 1
  | .repetition _ _ body => body.depth + 1
  | .group _ _ body => body.depth + 1
  | .concatenation parts => Regex.depthAll parts + 1
  | .alternation branches => Regex.depthAll branches + 1

/-- The greatest depth of some parts. -/
def Regex.depthAll : List Regex → Nat
  | [] => 0
  | part :: rest => max part.depth (Regex.depthAll rest)
end

namespace Regex

/-- Parts one after the other; a single part stands for itself. -/
def ofParts : List Regex → Regex
  | [] => .empty
  | [part] => part
  | parts => .concatenation parts

/-- Alternative branches; a single branch stands for itself. -/
def ofBranches : List Regex → Regex
  | [] => .empty
  | [branch] => branch
  | branches => .alternation branches

end Regex

/-- The parts of a class; a single part stands for itself. -/
def CharClass.ofParts : List CharClass → CharClass
  | [part] => part
  | parts => .union parts

end JsonQuery.Pattern

import JsonQuery.Pattern.Scan

/-! # Reading regular expressions

A regular expression is read from left to right. The parts of the branch at hand and the branches
before it are kept in reverse, so that a repetition finds the part it belongs to in front.
-/

namespace JsonQuery.Pattern

/-! ## Classes -/

def asciiClass? (name : String) : Option AsciiClass :=
  match name with
  | "alnum" => some .alnum
  | "alpha" => some .alpha
  | "ascii" => some .ascii
  | "blank" => some .blank
  | "cntrl" => some .cntrl
  | "digit" => some .digit
  | "graph" => some .graph
  | "lower" => some .lower
  | "print" => some .print
  | "punct" => some .punct
  | "space" => some .space
  | "upper" => some .upper
  | "word" => some .word
  | "xdigit" => some .xdigit
  | _ => none

/-- A word between colons and brackets, after the first bracket. -/
def colonClass? (text : List Char) : Option (CharClass × List Char) :=
  match text with
  | ':' :: rest =>
      let (negated, rest) :=
        match rest with
        | '^' :: rest => (true, rest)
        | rest => (false, rest)
      match rest.dropWhile (· != ':') with
      | ':' :: ']' :: after =>
          (asciiClass? (String.ofList (rest.takeWhile (· != ':')))).map fun kind =>
            (.ascii kind negated, after)
      | _ => none
  | _ => none

def classPrimitive? (loose : Bool) : List Char → Option (Primitive × List Char)
  | '\\' :: rest => escape? loose rest
  | c :: rest => some (.char c, rest)
  | [] => none

/-- An element as a part of a class; assertions are none. -/
def Primitive.part? : Primitive → Option CharClass
  | .literal l => some (.literal l)
  | .short kind negated => some (.short kind negated)
  | .property name negated => some (.property name negated)
  | .assertion _ => none

/-- An element as an end of a range; only literals are. -/
def Primitive.end? : Primitive → Option Literal
  | .literal l => some l
  | _ => none

/-- A range, whose ends must not be in the wrong order. -/
def range? (first last : Primitive) : Option CharClass :=
  match first.end?, last.end? with
  | some first, some last => if first.char ≤ last.char then some (.range first last) else none
  | _, _ => none

/-- An element or a range. A hyphen before a bracket or a hyphen makes no range. -/
def elementOrRange? (loose : Bool) (text : List Char) : Option (CharClass × List Char) := do
  let (first, rest) ← classPrimitive? loose text
  match skip loose rest with
  | [] => none
  | '-' :: after =>
      let ahead := lookAhead loose after
      if ahead = some ']' ∨ ahead = some '-' then
        let part ← first.part?
        return (part, '-' :: after)
      else
        let after ← skipTo? loose after
        let (last, rest) ← classPrimitive? loose after
        let part ← range? first last
        return (part, rest)
  | rest =>
      let part ← first.part?
      return (part, rest)

def setOperator? : List Char → Option (SetOperator × List Char)
  | '&' :: '&' :: rest => some (.intersection, rest)
  | '-' :: '-' :: rest => some (.difference, rest)
  | '~' :: '~' :: rest => some (.symmetricDifference, rest)
  | _ => none

/-- Hyphens at the start of a class stand for themselves. -/
def leadingHyphens (loose : Bool) (fuel : Nat) (done : List CharClass) (text : List Char) :
    List CharClass × List Char :=
  match fuel, text with
  | fuel + 1, '-' :: rest =>
      leadingHyphens loose fuel (.literal ⟨'-', false⟩ :: done) (skip loose rest)
  | _, _ => (done, text)

/-- The start of a class after its bracket: whether it is negated, and the hyphens or the bracket
    that stand for themselves there. -/
def classStart? (loose : Bool) (text : List Char) :
    Option (Bool × List CharClass × List Char) := do
  let text ← skipTo? loose text
  let (negated, text) :=
    match text with
    | '^' :: rest => (true, skip loose rest)
    | text => (false, text)
  let (hyphens, text) := leadingHyphens loose text.length [] text
  match hyphens, text with
  | _, [] => none
  | [], ']' :: rest =>
      let rest ← skipTo? loose rest
      return (negated, [.literal ⟨']', false⟩], rest)
  | hyphens, text => return (negated, hyphens, text)

/-- What stands between an operator's operands so far, and the operator. -/
abbrev Pending := Option (SetOperator × CharClass)

/-- The operand to the left, joined with the parts read since. -/
def joinPending (pending : Pending) (parts : List CharClass) : CharClass :=
  let right := CharClass.ofParts parts.reverse
  match pending with
  | some (operator, left) => .operation operator left right
  | none => right

/-- The rest of a class up to its closing bracket. Operators group to the left, and each takes all
    parts up to the next one. -/
def classRest? (loose : Bool) (fuel : Nat) (pending : Pending) (parts : List CharClass)
    (text : List Char) : Option (CharClass × List Char) :=
  match fuel with
  | 0 => none
  | fuel + 1 =>
      let text := skip loose text
      match text with
      | [] => none
      | ']' :: rest => some (joinPending pending parts, rest)
      | '[' :: rest =>
          match colonClass? rest with
          | some (part, rest) => classRest? loose fuel pending (part :: parts) rest
          | none =>
              match classStart? loose rest with
              | none => none
              | some (negated, first, rest) =>
                  match classRest? loose fuel none first rest with
                  | none => none
                  | some (body, rest) =>
                      classRest? loose fuel pending (.bracketed negated body :: parts) rest
      | text =>
          match setOperator? text with
          | some (operator, rest) =>
              classRest? loose fuel (some (operator, joinPending pending parts)) [] rest
          | none =>
              match elementOrRange? loose text with
              | some (part, rest) => classRest? loose fuel pending (part :: parts) rest
              | none => none

def charClass? (loose : Bool) (text : List Char) : Option (Regex × List Char) := do
  let (negated, first, rest) ← classStart? loose text
  let (body, rest) ← classRest? loose (rest.length + 1) none first rest
  return (.bracketed negated body, rest)

/-! ## Groups and sequences -/

def Primitive.regex : Primitive → Regex
  | .literal l => .literal l
  | .assertion kind => .assertion kind
  | .short kind negated => .short kind negated
  | .property name negated => .property name negated

/-- A single character outside classes, or an escape. -/
def primitive? (loose : Bool) : List Char → Option (Regex × List Char)
  | '\\' :: rest => (escape? loose rest).map fun (p, rest) => (p.regex, rest)
  | '.' :: rest => some (.dot, rest)
  | '^' :: rest => some (.assertion .lineStart, rest)
  | '$' :: rest => some (.assertion .lineEnd, rest)
  | c :: rest => some (.literal ⟨c, false⟩, rest)
  | [] => none

/-- Repeat the part in front. Nothing, and a change of switches, cannot be repeated. -/
def repeatFirst? (least : Nat) (most : Option Nat) : List Regex → Option (List Regex)
  | [] | .empty :: _ | .flags _ :: _ => none
  | part :: before => some (.repetition least most part :: before)

/-- What the opening parenthesis of a group begins. -/
inductive GroupStart where
  /-- A group that is numbered. -/
  | plain
  | named (name : List Char)
  | withFlags (changes : FlagChanges)
  /-- No group, but a change of switches. -/
  | directive (changes : FlagChanges)

/-- The start of a group, after its parenthesis. Look-around is not supported. -/
def groupStart? (loose : Bool) (text : List Char) : Option (GroupStart × List Char) :=
  match skip loose text with
  | '?' :: 'P' :: '<' :: rest => (groupName? rest).map fun (name, rest) => (.named name, rest)
  | '?' :: '<' :: rest => (groupName? rest).map fun (name, rest) => (.named name, rest)
  | '?' :: rest =>
      match flags? false false [] rest with
      | some (changes, ':' :: rest) => some (.withFlags changes, rest)
      | some ([], ')' :: _) => none
      | some (changes, ')' :: rest) => some (.directive changes, rest)
      | _ => none
  | rest => some (.plain, rest)

/-- Whether blanks are ignored after a change of switches. -/
def looseAfter (loose : Bool) (changes : FlagChanges) : Bool :=
  match changes.find? (·.1 == .ignoreWhitespace) with
  | some (_, on) => on
  | none => loose

/-- What has been read of a group: the names of all groups so far, the branches before the present
    one, and the parts of the present one, the last ones first. -/
structure Progress where
  names : List (List Char)
  branches : List Regex
  parts : List Regex

namespace Progress

def push (p : Progress) (part : Regex) : Progress := { p with parts := part :: p.parts }

def endBranch (p : Progress) : Progress :=
  { p with branches := Regex.ofParts p.parts.reverse :: p.branches, parts := [] }

def regex (p : Progress) : Regex := Regex.ofBranches p.endBranch.branches.reverse

def start (names : List (List Char)) : Progress := ⟨names, [], []⟩

end Progress

/-- The names of groups with another one, which has to be new. -/
def addName? (names : List (List Char)) : GroupStart → Option (List (List Char))
  | .named name => if names.contains name then none else some (name :: names)
  | _ => some names

/-- The switches at the start of a group. -/
def GroupStart.changes : GroupStart → FlagChanges
  | .plain | .named _ => []
  | .withFlags changes | .directive changes => changes

/-- Groups without switches of their own are numbered. -/
def GroupStart.isNumbered : GroupStart → Bool
  | .plain | .named _ => true
  | .withFlags _ | .directive _ => false

/-- Read on up to the end of the text or to a closing parenthesis that belongs to no group opened
    meanwhile. -/
def readOn? (loose : Bool) (fuel : Nat) (p : Progress) (text : List Char) :
    Option (Progress × List Char) :=
  match fuel with
  | 0 => none
  | fuel + 1 =>
      let onPart (result : Option (Regex × List Char)) : Option (Progress × List Char) :=
        match result with
        | some (part, rest) => readOn? loose fuel (p.push part) rest
        | none => none
      let onRepetition (least : Nat) (most : Option Nat) (rest : List Char) :
          Option (Progress × List Char) :=
        match repeatFirst? least most p.parts with
        | some parts => readOn? loose fuel { p with parts := parts } rest
        | none => none
      let text := skip loose text
      match text with
      | [] => some (p, [])
      | ')' :: _ => some (p, text)
      | '|' :: rest => readOn? loose fuel p.endBranch rest
      | '[' :: rest => onPart (charClass? loose rest)
      | '?' :: rest => onRepetition 0 (some 1) (skipLazy rest)
      | '*' :: rest => onRepetition 0 none (skipLazy rest)
      | '+' :: rest => onRepetition 1 none (skipLazy rest)
      | '\x7b' :: rest =>
          match bounds? loose rest with
          | some (least, most, rest) => onRepetition least most rest
          | none => none
      | '(' :: rest =>
          match groupStart? loose rest with
          | none => none
          | some (.directive changes, rest) =>
              readOn? (looseAfter loose changes) fuel (p.push (.flags changes)) rest
          | some (start, rest) =>
              match addName? p.names start with
              | none => none
              | some names =>
                  match readOn? (looseAfter loose start.changes) fuel (.start names) rest with
                  | some (inner, ')' :: rest) =>
                      let group := Regex.group start.isNumbered start.changes inner.regex
                      readOn? loose fuel { p.push group with names := inner.names } rest
                  | _ => none
      | text => onPart (primitive? loose text)

/-- The deepest nesting that is allowed. -/
def depthLimit : Nat := 250

/-- The regular expression that a text stands for, if it is one. -/
def Regex.ofChars? (text : List Char) : Option Regex :=
  match readOn? false (text.length + 1) (.start []) text with
  | some (p, []) => if p.regex.depth ≤ depthLimit then some p.regex else none
  | _ => none

end JsonQuery.Pattern

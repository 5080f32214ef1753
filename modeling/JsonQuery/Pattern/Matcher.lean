import JsonQuery.Pattern

/-! # Matching

Matching keeps a mark for every position of the text, before its first character up to after its
last. A pattern takes the marks of all positions where it may begin to the marks of all positions
where it may end. What a pattern asks of single characters and positions is settled once for the
whole text beforehand.
-/

namespace JsonQuery.Pattern

/-- A mark for every position of a text. -/
abbrev Marks := List Bool

/-- A pattern whose sets and conditions have been replaced by the characters and the positions of a
    text that meet them. -/
inductive Trace where
  | empty
  /-- Go over one of the marked characters. -/
  | advance (characters : List Bool)
  /-- Stay on one of the marked positions. -/
  | stay (positions : Marks)
  | seq (first second : Trace)
  | either (first second : Trace)
  | repetition (least : Nat) (most : Option Nat) (body : Trace)
  deriving Repr

def positionsOf (look : Look) (before : Option Char) : List Char → Marks
  | [] => [look.holds before none]
  | c :: rest => look.holds before (some c) :: positionsOf look (some c) rest

/-- The trace of a pattern on a text. -/
def trace (text : List Char) : Pattern → Trace
  | .empty => .empty
  | .set points => .advance (text.map fun c => points.contains c.toNat)
  | .look condition => .stay (positionsOf condition none text)
  | .seq first second => .seq (trace text first) (trace text second)
  | .either first second => .either (trace text first) (trace text second)
  | .repetition least most body => .repetition least most (trace text body)
  | .group body => trace text body

/-- The marks that are in either list. -/
def mergeMarks (a b : Marks) : Marks := List.zipWith (· || ·) a b

/-- The same step `count` times. Once a step changes nothing, no further one does. -/
def exactly (step : Marks → Marks) : Nat → Marks → Marks
  | 0, marks => marks
  | count + 1, marks =>
      let next := step marks
      if next = marks then marks else exactly step count next

/-- The same step up to `count` times. -/
def upTo (step : Marks → Marks) : Nat → Marks → Marks
  | 0, marks => marks
  | count + 1, marks =>
      let next := mergeMarks marks (step marks)
      if next = marks then marks else upTo step count next

/-- The positions where a trace may end, from the positions where it may begin. Without an upper
    bound, as many repetitions as there are positions reach everything that can be reached. -/
def Trace.run : Trace → Marks → Marks
  | .empty, marks => marks
  | .advance characters, marks => false :: List.zipWith (· && ·) marks characters
  | .stay positions, marks => List.zipWith (· && ·) marks positions
  | .seq first second, marks => second.run (first.run marks)
  | .either first second, marks => mergeMarks (first.run marks) (second.run marks)
  | .repetition least most body, marks =>
      let more :=
        match most with
        | some most => most - least
        | none => marks.length
      upTo body.run more (exactly body.run least marks)

def matchesWithin (pattern : Pattern) (text : List Char) : Bool :=
  ((trace text pattern).run (List.replicate (text.length + 1) true)).any id

end JsonQuery.Pattern

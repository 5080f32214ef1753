import JsonQuery.Pattern
import JsonQuery.Unicode.Canonical
import JsonQuery.Unicode.Encoding

/-! # The size of a pattern

A pattern stands for an automaton that reads bytes, and repetitions repeat their part of it. What
would take more than ten mebibytes is refused. Every state takes the same space, with a surcharge
for each way out of a state that has several.
-/

namespace JsonQuery.Pattern

open JsonQuery.Unicode

def stateSize : Nat := 32

/-- The space of a way out that leads on without reading. -/
def branchSize : Nat := 4

/-- The space of a way out that reads a byte of a range. -/
def byteRangeSize : Nat := 8

def sizeLimit : Nat := 10485760

/-- The states for sequences of byte ranges, shared where one begins like the one before. -/
def sharedStates (before : RangeSet) : List RangeSet → Nat
  | [] => 0
  | sequence :: rest =>
      let shared := ((before.zip sequence).takeWhile fun (a, b) => a == b).length
      sequence.length - shared + sharedStates sequence rest

/-- The size of some ranges of characters: a lone character takes a state for each of its bytes, and
    ranges within ASCII share one state. -/
def rangesSize (ranges : RangeSet) : Nat :=
  match ranges with
  | [] => stateSize
  | [(low, high)] =>
      if low = high then stateSize * (encoding low).length else severalSize [(low, high)]
  | several => severalSize several
where
  /-- The size of more than one character. -/
  severalSize (ranges : RangeSet) : Nat :=
    if ranges.all fun range => range.2 < 128 then
      2 * stateSize + byteRangeSize * ranges.length
    else
      let sequences := byteSequences ranges
      stateSize * (2 + sharedStates [] sequences) + branchSize * sequences.length

def setSize (set : PointSet) : Nat := rangesSize set.characters

/-- Whether a pattern can match nothing but the empty text. -/
def isEmptyOnly : Pattern → Bool
  | .empty | .look _ => true
  | .set _ => false
  | .seq first second | .either first second => first.isEmptyOnly && second.isEmptyOnly
  | .repetition _ most body => most == some 0 || body.isEmptyOnly
  | .group body => body.isEmptyOnly

/-- Whether a pattern may match the empty text. -/
def isNullable : Pattern → Bool
  | .empty | .look _ => true
  | .set _ => false
  | .seq first second => first.isNullable && second.isNullable
  | .either first second => first.isNullable || second.isNullable
  | .repetition least _ body => least == 0 || body.isNullable
  | .group body => body.isNullable

/-- The set of a choice between sets. -/
def toSet? : Pattern → Option PointSet
  | .set points => some points
  | .either first second =>
      match first.toSet?, second.toSet? with
      | some a, some b => some (.union a b)
      | _, _ => none
  | _ => none

def isChoice : Pattern → Bool
  | .either .. => true
  | _ => false

/-- The size of a repetition without upper bound, `size` being that of its body. -/
def unboundedSize (least size : Nat) (isNullable : Bool) : Nat :=
  if least = 0 then
    if isNullable then size + 3 * stateSize + 4 * branchSize
    else size + stateSize + 2 * branchSize
  else least * size + stateSize + 2 * branchSize

/-- The size of a repetition with an upper bound, `size` being that of its body. -/
def boundedSize (least most size : Nat) : Nat :=
  if most ≤ least then least * size
  else if least = 0 ∧ most = 1 then size + 2 * stateSize + 2 * branchSize
  else
    least * size + 2 * stateSize + (most - least) * (size + stateSize + 2 * branchSize)

/-- The size of a pattern, if a set has the size that `setSize` says. A group takes a state at
    either end, a choice a state at either end for all of its branches. -/
def sizeWith (setSize : PointSet → Nat) : Pattern → Nat
  | .empty => 0
  | .set points => setSize points
  | .look _ => stateSize
  | .seq first second => first.sizeWith setSize + second.sizeWith setSize
  | .either first second =>
      match first.toSet?, second.toSet? with
      | some a, some b => setSize (.union a b)
      | _, _ =>
          first.sizeWith setSize + second.sizeWith setSize + branchSize +
            if second.isChoice then 0 else 2 * stateSize + branchSize
  | .repetition least most body =>
      let size := body.sizeWith setSize
      if body.isEmptyOnly then size
      else
        match most with
        | none => unboundedSize least size body.isNullable
        | some most => boundedSize least most size
  | .group body => body.sizeWith setSize + 2 * stateSize

/-- More than any set of the character database takes. -/
def generousSize : Nat := 131072

/-- Whether a pattern is small enough. With few sets it is, however large they are. -/
def isSmall (pattern : Pattern) : Bool :=
  pattern.sizeWith (fun _ => generousSize) ≤ sizeLimit || pattern.sizeWith setSize ≤ sizeLimit

end JsonQuery.Pattern

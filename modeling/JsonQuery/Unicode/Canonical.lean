import JsonQuery.Unicode.PointSet

/-! # Canonical ranges

Every set of code points has one list of ranges that are in order, apart from one another, and as
few as possible.
-/

namespace JsonQuery.Unicode

namespace RangeSet

/-- Join ranges that overlap or touch, the ranges being ordered by their lower ends. -/
def join : RangeSet → RangeSet
  | [] => []
  | [single] => [single]
  | (low, high) :: (next, top) :: rest =>
      if next ≤ high + 1 then join ((low, max high top) :: rest)
      else (low, high) :: join ((next, top) :: rest)
termination_by ranges => ranges.length

def canonical (ranges : RangeSet) : RangeSet :=
  join (ranges.mergeSort fun a b => a.1 ≤ b.1)

def lastPoint : Nat := 0x10FFFF

/-- What canonical ranges leave out from a code point on. -/
def gapsFrom (start : Nat) : RangeSet → RangeSet
  | [] => if start ≤ lastPoint then [(start, lastPoint)] else []
  | (low, high) :: rest =>
      if start < low then (start, low - 1) :: gapsFrom (high + 1) rest
      else gapsFrom (high + 1) rest

def complement (ranges : RangeSet) : RangeSet := gapsFrom 0 ranges

def union (a b : RangeSet) : RangeSet := canonical (a ++ b)

/-- The points of the first of two canonical sets that are not in the second. -/
def difference (a b : RangeSet) : RangeSet := complement (union (complement a) b)

/-- Surrogates are code points without characters. -/
def surrogates : RangeSet := [(0xD800, 0xDFFF)]

end RangeSet

/-- The code points that a rule applies to. -/
def FoldingRule.sources (rule : FoldingRule) : List Nat :=
  (List.range ((rule.last - rule.first) / rule.stride + 1)).map fun i =>
    rule.first + i * rule.stride

/-- The code points with another case, as far as a set has one of their case variants. -/
def variantsOf (member : Nat → Bool) : RangeSet :=
  foldingRules.flatMap fun rule =>
    (rule.sources.filter fun point => (caseVariants point).any member).flatMap fun point =>
      [(point, point), (rule.target point, rule.target point)]

/-- The letters of ASCII, as far as a set has them in one case. -/
def asciiVariantsOf (member : Nat → Bool) : RangeSet :=
  ((List.range 128).filter fun point => (asciiVariants point).any member).map fun point =>
    (point, point)

namespace PointSet

/-- The canonical ranges of a set. -/
def canonical : PointSet → RangeSet
  | .ranges rs => RangeSet.canonical rs
  | .union a b => RangeSet.union a.canonical b.canonical
  | .inter a b => RangeSet.difference a.canonical (RangeSet.complement b.canonical)
  | .diff a b => RangeSet.difference a.canonical b.canonical
  | .symmDiff a b =>
      RangeSet.union (RangeSet.difference a.canonical b.canonical)
        (RangeSet.difference b.canonical a.canonical)
  | .compl a => RangeSet.complement a.canonical
  | .anyCase a => RangeSet.union a.canonical (variantsOf a.contains)
  | .anyAsciiCase a => RangeSet.union a.canonical (asciiVariantsOf a.contains)

/-- The canonical ranges of the characters in a set. -/
def characters (a : PointSet) : RangeSet :=
  RangeSet.difference a.canonical RangeSet.surrogates

end PointSet

end JsonQuery.Unicode

import JsonQuery.Unicode.RangeSet
import JsonQuery.Unicode.Folding

/-! # Expressions for sets of code points

A set is kept as the expression it was built from; `contains` decides membership by walking through
the expression.
-/

namespace JsonQuery.Unicode

inductive PointSet where
  /-- The points of some ranges. -/
  | ranges (ranges : RangeSet)
  /-- The points of either set. -/
  | union (a b : PointSet)
  /-- The points of both sets. -/
  | inter (a b : PointSet)
  /-- The points of the first set that are not in the second. -/
  | diff (a b : PointSet)
  /-- The points of exactly one of the sets. -/
  | symmDiff (a b : PointSet)
  /-- The points outside the set. -/
  | compl (a : PointSet)
  /-- The points that differ from one of the set in case only. -/
  | anyCase (a : PointSet)
  /-- The same, for the letters of ASCII alone. -/
  | anyAsciiCase (a : PointSet)
  deriving Repr

/-- The code points that differ from an ASCII letter in case only, itself included. -/
def asciiVariants (point : Nat) : List Nat :=
  if 65 ≤ point ∧ point ≤ 90 then [point, point + 32]
  else if 97 ≤ point ∧ point ≤ 122 then [point, point - 32]
  else [point]

namespace PointSet

def empty : PointSet := .ranges []

def single (point : Nat) : PointSet := .ranges [(point, point)]

def unions (sets : List PointSet) : PointSet := sets.foldr .union empty

def contains : PointSet → Nat → Bool
  | .ranges rs, point => RangeSet.contains rs point
  | .union a b, point => a.contains point || b.contains point
  | .inter a b, point => a.contains point && b.contains point
  | .diff a b, point => a.contains point && !b.contains point
  | .symmDiff a b, point => a.contains point != b.contains point
  | .compl a, point => !a.contains point
  | .anyCase a, point => (caseVariants point).any a.contains
  | .anyAsciiCase a, point => (asciiVariants point).any a.contains

/-- Whether no byte beyond ASCII belongs to the set. -/
def isAscii (a : PointSet) : Bool := (List.range 128).all fun i => !a.contains (128 + i)

@[simp] theorem contains_empty (point : Nat) : empty.contains point = false := rfl

@[simp] theorem contains_compl (a : PointSet) (point : Nat) :
    a.compl.contains point = !a.contains point := rfl

theorem contains_unions (sets : List PointSet) (point : Nat) :
    (unions sets).contains point = sets.any (·.contains point) := by
  induction sets with
  | nil => rfl
  | cons a rest ih =>
      simp only [unions] at ih
      simp [unions, contains, ih]

end PointSet

end JsonQuery.Unicode

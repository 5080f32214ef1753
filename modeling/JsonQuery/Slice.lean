import JsonQuery.Node

/-! # Slices

A slice picks every `step`-th index between two bounds, upwards for a positive step and downwards
for a negative one. Bounds may count from the end and are cut off at the ends of the array; absent
bounds stand for the ends in the direction of the step.
-/

namespace JsonQuery.Slice

/-- A bound counted from the start. -/
def normalize (length bound : Int) : Int := if 0 ≤ bound then bound else length + bound

def clamp (low high value : Int) : Int := max low (min value high)

/-- The indices `first`, `first + step`, … below `stop`, for a positive step. -/
def upward (first stop step : Int) : List Nat :=
  if first < stop then
    (List.range ((stop - first - 1) / step + 1).toNat).map fun (i : Nat) =>
      (first + step * i).toNat
  else []

/-- The indices `first`, `first + step`, … above `stop`, for a negative step. -/
def downward (first stop step : Int) : List Nat :=
  if stop < first then
    (List.range ((first - stop - 1) / (-step) + 1).toNat).map fun (i : Nat) =>
      (first + step * i).toNat
  else []

/-- The indices a slice picks from an array of `length` items. A step of zero picks nothing. -/
def indices (length : Nat) (start stop step : Option Int) : List Nat :=
  let size : Int := length
  let stride := step.getD 1
  if 0 < stride then
    upward (clamp 0 size (normalize size (start.getD 0)))
      (clamp 0 size (normalize size (stop.getD size))) stride
  else if stride < 0 then
    downward (clamp (-1) (size - 1) (normalize size (start.getD (size - 1))))
      (clamp (-1) (size - 1) (normalize size (stop.getD (-size - 1)))) stride
  else []

end Slice

namespace Node

def slice (node : Node) (start stop step : Option Int) : List Node :=
  match node.value with
  | .array items =>
      (Slice.indices items.length start stop step).filterMap (node.itemAt? items)
  | _ => []

end JsonQuery.Node

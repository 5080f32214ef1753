import JsonQuery.Slice

/-! # Guarded slices

The indices of a slice are reckoned in signed integers of 64 bits, one after the other. A guarded
selection picks what the plain one does but fails where an integer on the way does not fit.
-/

namespace JsonQuery.Slice

/-- An integer, if 64 bits with a sign hold it. -/
def held? (value : Int) : Option Int := if Number.isSigned value then some value else none

def normalize? (size bound : Int) : Option Int :=
  if 0 ≤ bound then some bound else held? (size + bound)

def upward? (stop : Int) {step : Int} (positive : 0 < step) (index : Int) : Option (List Nat) :=
  if index < stop then
    (held? (index + step)).bind fun _ =>
      (upward? stop positive (index + step)).map (index.toNat :: ·)
  else some []
termination_by (stop - index).toNat

def downward? (stop : Int) {step : Int} (negative : step < 0) (index : Int) : Option (List Nat) :=
  if stop < index then
    (held? (index + step)).bind fun _ =>
      (downward? stop negative (index + step)).map (index.toNat :: ·)
  else some []
termination_by (index - stop).toNat

/-- The indices a slice picks. The ends of the array are reckoned whether a bound is absent or
    not. -/
def indices? (length : Nat) (start stop step : Option Int) : Option (List Nat) :=
  if length = 0 then some []
  else
    (held? length).bind fun size =>
      if positive : 0 < step.getD 1 then
        (normalize? size (start.getD 0)).bind fun lower =>
          (normalize? size (stop.getD size)).bind fun upper =>
            upward? (clamp 0 size upper) positive (clamp 0 size lower)
      else if negative : step.getD 1 < 0 then
        (held? (size - 1)).bind fun last =>
          (held? (-size)).bind fun opposite =>
            (held? (opposite - 1)).bind fun before =>
              (normalize? size (start.getD last)).bind fun upper =>
                (normalize? size (stop.getD before)).bind fun lower =>
                  downward? (clamp (-1) last lower) negative (clamp (-1) last upper)
      else some []

end JsonQuery.Slice

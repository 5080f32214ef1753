/-! # Finite binary64 numbers

A double is its sign together with the rank of its magnitude among all finite magnitudes, counted
upwards from zero. The rank is the usual encoding without its sign bit, so the order of doubles is
the order of integers, and the exact value is recovered by `units`.
-/

namespace JsonQuery

/-- The number of doubles between a power of two and the next one. -/
def Double.binade : Nat := 4503599627370496

/-- The number of finite magnitudes. -/
def Double.count : Nat := 2047 * Double.binade

/-- A finite IEEE binary64 number. -/
structure Double where
  /-- The sign; zero has both. -/
  negative : Bool
  /-- How many finite magnitudes are smaller than this one. -/
  rank : Nat
  /-- The ranks from `count` on belong to infinity and to values that are no numbers. -/
  finite : rank < Double.count
  deriving DecidableEq, Repr

namespace Double

/-- The power of two by which the significand of a rank is scaled; the ranks of the first two
    binades share the smallest. -/
def scale (rank : Nat) : Nat := rank / binade - 1

/-- The exact magnitude of a rank in units of `2 ^ -1074`, of which every double is a multiple. -/
def units (rank : Nat) : Nat := (rank - scale rank * binade) <<< scale rank

def zero (negative : Bool) : Double := ⟨negative, 0, by decide⟩

def largest (negative : Bool) : Double := ⟨negative, count - 1, by decide⟩

def neg (x : Double) : Double := { x with negative := !x.negative }

/-- The signed rank. Both zeros have the key `0`. -/
def key (x : Double) : Int := if x.negative then -(x.rank : Int) else x.rank

/-- Comparison by value; the two zeros are equal. -/
def cmp (x y : Double) : Ordering := compare x.key y.key

/-- Equality by value; the two zeros are equal. -/
def sameValue (x y : Double) : Bool := x.key == y.key

@[simp] theorem key_zero (negative : Bool) : (zero negative).key = 0 := by
  cases negative <;> rfl

@[simp] theorem neg_neg (x : Double) : x.neg.neg = x := by
  cases x; simp [neg]

theorem key_neg (x : Double) : x.neg.key = -x.key := by
  cases x with
  | mk negative rank finite => cases negative <;> simp [neg, key]

theorem sameValue_iff {x y : Double} : x.sameValue y = true ↔ x.cmp y = .eq := by
  simp [sameValue, cmp]

end Double

end JsonQuery

import JsonQuery.Double.Nearest

/-! # The shortest decimal that reads back

The text of a double has the fewest significant digits of all decimals that round to it, and among
those of that length the nearest one, a tie going to the even last digit. Whether a decimal rounds
to the double is decided exactly, by comparing it with the midpoints to the neighbouring ranks.
-/

namespace JsonQuery.Double

/-- A positive decimal `digits * 10 ^ exponent`. -/
structure Decimal where
  digits : Nat
  exponent : Int
  deriving DecidableEq, Repr

/-- `digits * 10 ^ exponent` in units of `2 ^ -1074`, as the numerator over `unitDenominator`. -/
def unitNumerator (exponent : Int) : Nat := Nat.pow 10 exponent.toNat <<< 1074

/-- The denominator that goes with `unitNumerator`. -/
def unitDenominator (exponent : Int) : Nat := Nat.pow 10 (-exponent).toNat

/-- A decimal rounds to the rank when it lies between the midpoints to the rank's neighbours; the
    midpoints themselves belong to the even rank. -/
def roundsTo (rank : Nat) (d : Decimal) : Bool :=
  let twice := 2 * (d.digits * unitNumerator d.exponent)
  let low := (units (rank - 1) + units rank) * unitDenominator d.exponent
  let high := (units rank + units (rank + 1)) * unitDenominator d.exponent
  if rank % 2 = 0 then low ≤ twice && twice ≤ high else low < twice && twice < high

/-- The nearest decimal with the given exponent that rounds to the rank, if one does. The
    candidates are the neighbours of the exact value on the grid of that exponent. -/
def onGrid? (rank : Nat) (exponent : Int) : Option Decimal :=
  let exact := units rank * unitDenominator exponent
  let step := unitNumerator exponent
  let below : Decimal := ⟨exact / step, exponent⟩
  let above : Decimal := ⟨exact / step + 1, exponent⟩
  let excess := exact % step
  match roundsTo rank below, roundsTo rank above with
  | false, false => none
  | true, false => some below
  | false, true => some above
  | true, true =>
      if 2 * excess < step ∨ (2 * excess = step ∧ below.digits % 2 = 0) then some below
      else some above

/-- The exponent of the leading digit: the largest `e` with `10 ^ e` at most the magnitude. The
    first guess comes from the binary logarithm and is off by at most one. -/
def leadingExponent (rank : Nat) : Int :=
  let guess : Int := (((Nat.log2 (units rank) : Int) - 1074) * 30103).fdiv 100000
  let reaches (e : Int) : Bool := unitNumerator e ≤ units rank * unitDenominator e
  if !reaches guess then guess - 1 else if reaches (guess + 1) then guess + 1 else guess

/-- The decimal that is exactly the magnitude of a rank: `2 ^ -1074` is `5 ^ 1074 * 10 ^ -1074`. -/
def exactDecimal (rank : Nat) : Decimal := ⟨units rank * Nat.pow 5 1074, -1074⟩

/-- The shortest decimal of a nonzero rank. Seventeen digits suffice for every double; with the
    exact decimal behind them the result reads back in any case. -/
def shortest (rank : Nat) : Decimal :=
  let leading := leadingExponent rank
  ((List.range 17).findSome? fun (more : Nat) => onGrid? rank (leading - more)).getD
    (exactDecimal rank)

/-- Drop final zeros of the digits, at most `fuel` of them. -/
def Decimal.trim : Nat → Decimal → Decimal
  | 0, d => d
  | fuel + 1, d =>
      if d.digits % 10 = 0 ∧ d.digits ≠ 0 then trim fuel ⟨d.digits / 10, d.exponent + 1⟩ else d

/-- Which decimals are written positionally. -/
structure Layout where
  /-- The least exponent of the leading digit that is written positionally. -/
  leastPositional : Int
  /-- The least exponent above it that is written with an exponent again. -/
  leastScientific : Int

/-- Doubles are positional from `0.00001` up to `10 ^ 16`. -/
def layout : Layout := ⟨-5, 16⟩

def digitsOf (n : Nat) : List Char := Nat.toDigits 10 n

/-- A positional decimal always has a point with a digit on both sides. -/
def positional (digits : List Char) (exponent leading : Int) : List Char :=
  if 0 ≤ exponent then
    digits ++ List.replicate exponent.toNat '0' ++ ['.', '0']
  else if 0 ≤ leading then
    digits.take (leading.toNat + 1) ++ '.' :: digits.drop (leading.toNat + 1)
  else
    '0' :: '.' :: (List.replicate (-leading - 1).toNat '0' ++ digits)

/-- Scientific text always shows the sign of its exponent, and has a point only before further
    digits. -/
def scientific (digits : List Char) (leading : Int) : List Char :=
  let mantissa :=
    match digits with
    | first :: next :: rest => first :: '.' :: next :: rest
    | short => short
  mantissa ++ 'e' :: (if leading < 0 then '-' else '+') :: digitsOf leading.natAbs

def Decimal.chars (d : Decimal) : List Char :=
  let digits := digitsOf d.digits
  let leading : Int := d.exponent + digits.length - 1
  if layout.leastPositional ≤ leading ∧ leading < layout.leastScientific then
    positional digits d.exponent leading
  else
    scientific digits leading

def chars (x : Double) : List Char :=
  let magnitude := if x.rank = 0 then ['0', '.', '0'] else ((shortest x.rank).trim 17).chars
  if x.negative then '-' :: magnitude else magnitude

def text (x : Double) : String := String.ofList x.chars

end JsonQuery.Double

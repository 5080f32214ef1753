import JsonQuery.Double.Shortest

/-! # Numbers

A number is an exact integer or a double, and keeps which of the two it is: `1` and `1.0` are equal
by value and print differently.
-/

namespace JsonQuery

inductive Number where
  /-- An exact integer. -/
  | int (value : Int)
  /-- A finite double. -/
  | float (value : Double)
  deriving DecidableEq, Repr

def intText (value : Int) : String :=
  if value < 0 then String.ofList ('-' :: Nat.toDigits 10 value.natAbs)
  else String.ofList (Nat.toDigits 10 value.natAbs)

def natText (value : Nat) : String := String.ofList (Nat.toDigits 10 value)

namespace Number

/-- The least integer that is kept exactly. -/
def leastInt : Int := -9223372036854775808

/-- The first integer past those of 63 bits. -/
def signedLimit : Int := 9223372036854775808

/-- The first integer that is too large to be kept exactly. -/
def unsignedLimit : Int := 18446744073709551616

def toDouble : Number → Double
  | .int value => .ofInt value
  | .float value => value

def isSigned (value : Int) : Bool := leastInt ≤ value && value < signedLimit

def isUnsigned (value : Int) : Bool := 0 ≤ value && value < unsignedLimit

def signed? : Number → Option Int
  | .int value => if isSigned value then some value else none
  | .float _ => none

def unsigned? : Number → Option Int
  | .int value => if isUnsigned value then some value else none
  | .float _ => none

/-- Order by value. Two integers are compared exactly if both fit with a sign, or both without one;
    all other numbers are compared as doubles. -/
def cmp (a b : Number) : Ordering :=
  match a.signed?, b.signed? with
  | some x, some y => compare x y
  | _, _ =>
      match a.unsigned?, b.unsigned? with
      | some x, some y => compare x y
      | _, _ => a.toDouble.cmp b.toDouble

/-- Equality as data: integers with integers, doubles with doubles by value. -/
def sameLiteral : Number → Number → Bool
  | .int a, .int b => a == b
  | .float a, .float b => a.sameValue b
  | _, _ => false

def text : Number → String
  | .int value => intText value
  | .float value => value.text

end Number

end JsonQuery

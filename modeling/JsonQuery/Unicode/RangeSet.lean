import JsonQuery.Text.Hex

/-! # Sets of code points

The tables of the Unicode character database are written as texts of hexadecimal code points:
`41-5A` is a range, `AA` a single code point, and `100-12E/2` every second one of a range.
-/

namespace JsonQuery.Unicode

/-- Inclusive ranges of code points. -/
abbrev RangeSet := List (Nat × Nat)

namespace RangeSet

def contains (ranges : RangeSet) (point : Nat) : Bool :=
  ranges.any fun (low, high) => low ≤ point && point ≤ high

/-- A code point in hexadecimal. -/
def point (text : String) : Nat := (Text.hexValue? text.toList).getD 0

/-- Every `stride`-th code point of a range. -/
def strided (low high stride : Nat) : RangeSet :=
  (List.range ((high - low) / stride + 1)).map fun i => (low + i * stride, low + i * stride)

def ofEntry (entry : String) : RangeSet :=
  match entry.splitOn "-" with
  | [single] => [(point single, point single)]
  | [low, high] =>
      match high.splitOn "/" with
      | [high] => [(point low, point high)]
      | [high, stride] =>
          strided (point low) (point high) (Text.decimalValue stride.toList)
      | _ => []
  | _ => []

def ofLine (line : String) : RangeSet := (line.splitOn " ").flatMap ofEntry

def ofTable (lines : List String) : RangeSet := lines.flatMap ofLine

@[simp] theorem contains_nil (point : Nat) : contains [] point = false := rfl

theorem contains_append (first second : RangeSet) (point : Nat) :
    contains (first ++ second) point = (contains first point || contains second point) := by
  simp [contains, List.any_append]

end RangeSet

/-- A set of the database with the names it goes by. The names are in loose spelling: lower case,
    without blanks, hyphens and underscores. -/
structure Entry where
  names : List String
  table : List String

def Entry.find? (entries : List Entry) (name : String) : Option RangeSet :=
  (entries.find? (·.names.contains name)).map fun entry => .ofTable entry.table

end JsonQuery.Unicode

import JsonQuery.Unicode.RangeSet

/-! # Ranges of bytes

A character is encoded in one to four bytes. A range of characters is cut into pieces whose
encodings are all combinations of one range of bytes for every place.
-/

namespace JsonQuery.Unicode

/-- A later byte of an encoding, which carries six bits. -/
def laterByte (bits : Nat) : Nat := 0x80 + bits % 64

def encoding (point : Nat) : List Nat :=
  if point < 0x80 then [point]
  else if point < 0x800 then [0xC0 + point / 64, laterByte point]
  else if point < 0x10000 then
    [0xE0 + point / 4096, laterByte (point / 64), laterByte point]
  else
    [0xF0 + point / 262144, laterByte (point / 4096), laterByte (point / 64), laterByte point]

/-- The end of the first piece of a range that reaches over a multiple of `block`, if the lower or
    the upper end is not at the edge of a block. -/
def blockCut? (block low high : Nat) : Option Nat :=
  if low / block = high / block then none
  else if low % block ≠ 0 then some (low / block * block + block - 1)
  else if high % block ≠ block - 1 then some (high / block * block - 1)
  else none

/-- The end of the first piece of a range that reaches over `last`. -/
def lengthCut? (last low high : Nat) : Option Nat :=
  if low ≤ last ∧ last < high then some last else none

/-- The end of the first piece of a range, if it has to be cut: first where the encoding grows by a
    byte, then at blocks of the last byte, of the last two and of the last three. -/
def cut? (low high : Nat) : Option Nat :=
  lengthCut? 0x7F low high <|> lengthCut? 0x7FF low high <|> lengthCut? 0xFFFF low high <|>
    (if high < 0x80 then none
      else blockCut? 64 low high <|> blockCut? 4096 low high <|> blockCut? 262144 low high)

def pieces (low high : Nat) : RangeSet :=
  match cut? low high with
  | some last =>
      if _inside : low ≤ last ∧ last < high then pieces low last ++ pieces (last + 1) high
      else [(low, high)]
  | none => [(low, high)]
termination_by high - low

/-- The ranges of bytes that encode a piece, one for every place. -/
def byteRanges (low high : Nat) : RangeSet := (encoding low).zip (encoding high)

/-- The ranges of bytes for all pieces of a set, in order. -/
def byteSequences (ranges : RangeSet) : List RangeSet :=
  ranges.flatMap fun (low, high) => (pieces low high).map fun (low, high) => byteRanges low high

end JsonQuery.Unicode

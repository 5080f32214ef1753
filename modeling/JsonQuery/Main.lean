import JsonQuery.CommandLine

/-! # The program -/

/-- Run a query on a document given as an argument or on standard input. -/
def main (arguments : List String) : IO UInt32 := do
  let input ←
    if JsonQuery.CommandLine.readsInput arguments then (← IO.getStdin).readToEnd else pure ""
  let result := JsonQuery.CommandLine.run arguments input
  (← IO.getStdout).putStr result.output
  (← IO.getStderr).putStr result.errors
  return result.code.toUInt32

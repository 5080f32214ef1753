/-! # The functions of filter expressions -/

namespace JsonQuery

/-- What a function takes as an argument. -/
inductive Parameter where
  /-- A literal, a singular query or the value of another function. -/
  | value
  /-- A query, taken as the list of nodes it selects. -/
  | nodes
  deriving DecidableEq, Repr

/-- What a function gives. -/
inductive Return where
  /-- A value to compare. -/
  | value
  /-- A truth value to test. -/
  | logical
  deriving DecidableEq, Repr

/-- The functions a filter can call. -/
inductive Function where
  /-- The number of characters, items or members of a value. -/
  | length
  /-- The number of nodes a query selects. -/
  | count
  /-- Whether a pattern matches the whole of a text. -/
  | matches
  /-- Whether a pattern matches somewhere in a text. -/
  | search
  /-- The value of the only node a query selects. -/
  | value
  deriving DecidableEq, Repr

namespace Function

def name : Function → String
  | .length => "length"
  | .count => "count"
  | .matches => "match"
  | .search => "search"
  | .value => "value"

def all : List Function := [.length, .count, .matches, .search, .value]

def ofName? (name : String) : Option Function := all.find? (·.name == name)

def parameters : Function → List Parameter
  | .length => [.value]
  | .count => [.nodes]
  | .matches => [.value, .value]
  | .search => [.value, .value]
  | .value => [.nodes]

def returns : Function → Return
  | .length | .count | .value => .value
  | .matches | .search => .logical

theorem mem_all (f : Function) : f ∈ all := by cases f <;> decide

theorem ofName?_name (f : Function) : ofName? f.name = some f := by cases f <;> decide

theorem name_of_ofName? {name : String} {f : Function} (h : ofName? name = some f) :
    f.name = name := by
  simpa using List.find?_some h

end Function

end JsonQuery

import JsonQuery.Number

/-! # Reports of rejected queries

A diagnostic says which rule rejected a query, in words, and where. Places are counted in
characters from the start of the query.
-/

namespace JsonQuery

structure Span where
  offset : Nat
  length : Nat
  deriving DecidableEq, Repr

/-- The phase or the rule that rejected a query. -/
inductive ErrorKind where
  /-- Malformed characters, strings, escapes or numbers. -/
  | lexical
  /-- Violations of the grammar. -/
  | grammar
  /-- Ill-typed comparisons, conditions or function arguments. -/
  | type
  /-- Integers outside the interoperable range, numbers no double can hold, negative zero. -/
  | range
  /-- Unknown function names. -/
  | name
  /-- Tokens that no query text produces. -/
  | internal
  deriving DecidableEq, Repr

/-- The word a report opens with. -/
def ErrorKind.text : ErrorKind → String
  | .lexical => "syntax"
  | .grammar => "parse"
  | .type => "type"
  | .range => "range"
  | .name => "name"
  | .internal => "internal"

/-- A report of one rejection, with the query it is about. -/
structure Diagnostic where
  kind : ErrorKind
  message : String
  query : String
  span : Option Span
  deriving DecidableEq, Repr

namespace Diagnostic

/-- Where in the query, as far as it is known. -/
def place (d : Diagnostic) : String :=
  match d.span with
  | some span => " (at offset " ++ natText span.offset ++ " in `" ++ d.query ++ "`)"
  | none => " (in `" ++ d.query ++ "`)"

/-- The whole report on one line. -/
def text (d : Diagnostic) : String :=
  d.kind.text ++ " error: " ++ d.message ++ d.place

end Diagnostic

end JsonQuery

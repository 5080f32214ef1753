import JsonQuery.Syntax.Printer

/-! # Queries

A query is the chain of terms after `$`, kept with the text it was read from. Two queries are equal
when their normalized texts are, however they were written.
-/

namespace JsonQuery

structure Query where
  /-- The terms after `$`. -/
  links : List Term
  /-- The text of the query. -/
  source : String
  deriving Repr

namespace Query

def root (q : Query) : Expr := .chain .root q.links false

/-- The normalized text. -/
def text (q : Query) : String := q.root.text

def length (q : Query) : Nat := q.root.length

/-- Whether the query selects at most one node of every document. -/
def isSingular (q : Query) : Bool := q.root.isSingularQuery

/-- The query without its last link. It selects the containers in which the nodes of this query can
    lie, and is written as its normalized text. -/
def parent? (q : Query) : Option Query :=
  match q.links with
  | [] => none
  | links => some ⟨links.dropLast, (Expr.chain .root links.dropLast false).text⟩

/-- The parent, its parent, and so on, at most `limit` of them. -/
def ancestors : Nat → Query → List Query
  | 0, _ => []
  | limit + 1, q =>
      match q.parent? with
      | some parent => parent :: ancestors limit parent
      | none => []

/-- Equality of normalized texts. -/
def sameText (a b : Query) : Bool := a.text == b.text

theorem parent?_eq_none_iff {q : Query} : q.parent? = none ↔ q.links = [] := by
  unfold parent?
  split <;> simp_all

theorem parent?_of_ne_nil {q : Query} (nonempty : q.links ≠ []) :
    ∃ text, q.parent? = some ⟨q.links.dropLast, text⟩ := by
  unfold parent?
  split
  · next isNil => exact absurd isNil nonempty
  · exact ⟨_, rfl⟩

theorem length_parent? {q p : Query} (h : q.parent? = some p) : q.length = p.length + 1 := by
  unfold parent? at h
  split at h
  · simp at h
  · next nonempty =>
      cases h
      have : q.links.length ≠ 0 := by simpa using nonempty
      simp only [length, root, Expr.length, Expr.links, List.length_dropLast]
      omega

end Query

end JsonQuery

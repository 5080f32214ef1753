import JsonQuery.Syntax

/-! # Equality of syntax

Two expressions are the same when they have the same terms and the same parentheses. Literal
numbers are the same when they are of one type and of one value, so that the two zeros of the
doubles coincide.
-/

namespace JsonQuery

mutual
def Term.same : Term → Term → Bool
  | .root, .root => true
  | .current, .current => true
  | .name a, .name b => a == b
  | .index a, .index b => a == b
  | .wildcard, .wildcard => true
  | .slice a b c, .slice d e f => a == d && b == e && c == f
  | .filter a, .filter b => a.same b
  | .child as, .child bs => Expr.sameAll as bs
  | .descendant a, .descendant b => a.same b
  | .binary o a b, .binary p c d => o == p && a.same c && b.same d
  | .not a, .not b => a.same b
  | .call f as, .call g bs => f == g && Expr.sameAll as bs
  | .string a, .string b => a == b
  | .number a, .number b => a.sameLiteral b
  | .bool a, .bool b => a == b
  | .null, .null => true
  | _, _ => false
termination_by structural t => t

def Term.sameAll : List Term → List Term → Bool
  | [], [] => true
  | a :: as, b :: bs => a.same b && Term.sameAll as bs
  | _, _ => false
termination_by structural ts => ts

def Expr.same : Expr → Expr → Bool
  | .chain h ls g, .chain h' ls' g' => h.same h' && Term.sameAll ls ls' && g == g'
termination_by structural e => e

def Expr.sameAll : List Expr → List Expr → Bool
  | [], [] => true
  | a :: as, b :: bs => a.same b && Expr.sameAll as bs
  | _, _ => false
termination_by structural es => es
end

end JsonQuery

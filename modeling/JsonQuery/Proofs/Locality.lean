import Mathlib.Tactic
import JsonQuery.Query.Compile
import JsonQuery.Proofs.NodeLists

/-! # Chains without `$`

A chain in whose filters no query begins at `$` sees nothing but the value that it starts from. At a
node of a document it selects what it selects in the value of this node, taken as a document of its
own, under the location of the node.
-/

namespace JsonQuery

mutual
/-- Nothing inside the term begins at `$`. -/
def Term.isRelative : Term → Bool
  | .root => false
  | .filter condition => condition.isRelative
  | .child selectors => Expr.allRelative selectors
  | .descendant selector => selector.isRelative
  | .binary _ left right => left.isRelative && right.isRelative
  | .not operand => operand.isRelative
  | .call _ arguments => Expr.allRelative arguments
  | .current | .name _ | .index _ | .wildcard | .slice .. | .string _ | .number _ | .bool _
  | .null => true

def Term.allRelative : List Term → Bool
  | [] => true
  | term :: rest => term.isRelative && Term.allRelative rest

def Expr.isRelative : Expr → Bool
  | .chain head links _ => head.isRelative && Term.allRelative links

def Expr.allRelative : List Expr → Bool
  | [] => true
  | e :: rest => e.isRelative && Expr.allRelative rest
end

/-! ## Nodes of a value inside a document -/

namespace Located

/-- The node as it lies in a document that has its root's value at a location. -/
def under (above : Location) (node : Located) : Located := (above ++ node.1, node.2)

variable (above : Location) (node : Located)

@[simp] theorem under_nil : node.under [] = node := rfl

theorem among_under (entries : List (Key × Json)) :
    (node.under above).among entries = (node.among entries).map (under above) := by
  simp [among, under]

theorem inside_under : (node.under above).inside = node.inside.map (under above) :=
  node.among_under above _

theorem member_under (name : String) :
    (node.under above).member name = (node.member name).map (under above) :=
  node.among_under above _

theorem item_under (index : Int) :
    (node.under above).item index = (node.item index).map (under above) :=
  node.among_under above _

theorem slice_under (start stop step : Option Int) :
    (node.under above).slice start stop step = (node.slice start stop step).map (under above) := by
  obtain ⟨location, value⟩ := node
  cases value with
  | array items => exact among_under above (location, .array items) _
  | _ => rfl

theorem preorder_under : (node.under above).preorder = node.preorder.map (under above) := by
  induction size : sizeOf node.2 using Nat.strong_induction_on generalizing node with
  | _ _ ih =>
      rw [preorder_eq, preorder_eq, inside_under, List.map_cons, List.map_flatMap, List.flatMap_map]
      congr 1
      apply List.flatMap_congr
      intro child isChild
      exact ih _ (size ▸ sizeOf_inside isChild) child rfl

end Located

/-! ## The induction over the syntax -/

mutual
/-- A term without `$` selects the same below a node, in whatever document the node lies. -/
theorem Term.select_under (document document' : Json) {term : Term} (relative : term.isRelative = true)
    (above : Location) (node : Located) :
    term.select document (node.under above) =
      (term.select document' node).map (Located.under above) := by
  cases term with
  | root => cases relative
  | current => rfl
  | name name => exact node.member_under above name
  | index index => exact node.item_under above index
  | wildcard => exact node.inside_under above
  | slice start stop step => exact node.slice_under above start stop step
  | filter condition =>
      have same : (fun child : Located => (condition.outcome document child.2).isTrue) ∘
          Located.under above = fun child => (condition.outcome document' child.2).isTrue := by
        funext child
        exact congrArg Outcome.isTrue (Expr.outcome_relative document document' relative child.2)
      simp only [Term.select]
      rw [node.inside_under above, List.filter_map, same]
  | child selectors => exact Expr.selectAll_under document document' relative above node
  | descendant selector =>
      simp only [Term.select]
      rw [node.preorder_under above, List.flatMap_map, List.map_flatMap]
      apply List.flatMap_congr
      intro visited _
      exact Expr.select_under document document' relative above visited
  | _ => rfl
termination_by sizeOf term

theorem Expr.select_under (document document' : Json) {selector : Expr}
    (relative : selector.isRelative = true) (above : Location) (node : Located) :
    selector.select document (node.under above) =
      (selector.select document' node).map (Located.under above) := by
  cases selector with
  | chain head links grouped =>
      rw [Expr.isRelative, Bool.and_eq_true] at relative
      exact Term.select_under document document' relative.1 above node
termination_by sizeOf selector

theorem Expr.selectAll_under (document document' : Json) {selectors : List Expr}
    (relative : Expr.allRelative selectors = true) (above : Location) (node : Located) :
    Expr.selectAll document selectors (node.under above) =
      (Expr.selectAll document' selectors node).map (Located.under above) := by
  cases selectors with
  | nil => rfl
  | cons selector rest =>
      rw [Expr.allRelative, Bool.and_eq_true] at relative
      simp only [Expr.selectAll, List.map_append]
      rw [Expr.select_under document document' relative.1 above node,
        Expr.selectAll_under document document' relative.2 above node]
termination_by sizeOf selectors

theorem Term.nodeList_under (document document' : Json) {links : List Term}
    (relative : Term.allRelative links = true) (above : Location) (nodes : List Located) :
    Term.nodeList document links (nodes.map (Located.under above)) =
      (Term.nodeList document' links nodes).map (Located.under above) := by
  cases links with
  | nil => rfl
  | cons term rest =>
      rw [Term.allRelative, Bool.and_eq_true] at relative
      have step : (nodes.map (Located.under above)).flatMap (term.select document) =
          (nodes.flatMap (term.select document')).map (Located.under above) := by
        rw [List.flatMap_map, List.map_flatMap]
        apply List.flatMap_congr
        intro node _
        exact Term.select_under document document' relative.1 above node
      simp only [Term.nodeList]
      rw [step]
      exact Term.nodeList_under document document' relative.2 above _
termination_by sizeOf links

/-- A condition without `$` has the same outcome in every document. -/
theorem Expr.outcome_relative (document document' : Json) {e : Expr} (relative : e.isRelative = true)
    (current : Json) : e.outcome document current = e.outcome document' current := by
  cases e with
  | chain head links grouped =>
  rw [Expr.isRelative, Bool.and_eq_true] at relative
  obtain ⟨relativeHead, relativeLinks⟩ := relative
  cases head with
  | root => cases relativeHead
  | current =>
      have same := Term.nodeList_under document document' relativeLinks [] [([], current)]
      simp only [List.map_singleton, Located.under_nil] at same
      simp only [Expr.outcome]
      rw [same, List.map_map]
      rfl
  | binary operator left right =>
      rw [Term.isRelative, Bool.and_eq_true] at relativeHead
      have leftSame := Expr.outcome_relative document document' relativeHead.1 current
      have rightSame := Expr.outcome_relative document document' relativeHead.2 current
      cases operator <;> simp only [Expr.outcome, leftSame, rightSame]
  | not operand =>
      have same := Expr.outcome_relative document document' (e := operand) relativeHead current
      simp only [Expr.outcome, same]
  | call function arguments =>
      simp only [Expr.outcome]
      rw [Expr.outcomes_relative document document' relativeHead function.parameters current]
  | _ => rfl
termination_by sizeOf e

theorem Expr.outcomes_relative (document document' : Json) {arguments : List Expr}
    (relative : Expr.allRelative arguments = true) (parameters : List Parameter) (current : Json) :
    Expr.outcomes document parameters arguments current =
      Expr.outcomes document' parameters arguments current := by
  cases arguments with
  | nil => rfl
  | cons argument rest =>
      rw [Expr.allRelative, Bool.and_eq_true] at relative
      cases parameters with
      | nil => rfl
      | cons parameter parameters =>
          simp only [Expr.outcomes]
          rw [Expr.outcome_relative document document' relative.1 current,
            Expr.outcomes_relative document document' relative.2 parameters current]
termination_by sizeOf arguments
end

/-! ## Whole queries -/

/-- A query whose back part has no `$` in its filters: at every node that the front part finds, the
    back part finds what it finds in the value of this node by itself, and the locations are joined. -/
theorem Query.located_run_append {q front back : Query} (links : q.links = front.links ++ back.links)
    (relative : Term.allRelative back.links = true) (document : Json) :
    (q.run document).map (fun node => (node.location, node.value)) =
      (front.run document).flatMap fun node =>
        (back.run node.value).map fun found => (node.location ++ found.location, found.value) := by
  have below : ∀ node : Node, (Term.follow document back.links node).map Node.located =
      (back.run node.value).map fun found => (node.location ++ found.location, found.value) := by
    intro node
    have moved := Term.nodeList_under document node.value relative node.location [([], node.value)]
    have start : ([([], node.value)] : List Located).map (Located.under node.location) =
        [node.located] := by
      simp [Located.under, Node.located]
    rw [start] at moved
    rw [Term.located_follow, moved, ← Query.nodeList, ← Query.located_run, List.map_map]
    rfl
  calc (q.run document).map Node.located
      = ((front.run document).flatMap (Term.follow document back.links)).map Node.located := by
        rw [Query.run, links, Term.follow_append, Query.run]
    _ = (front.run document).flatMap fun node =>
          (Term.follow document back.links node).map Node.located := List.map_flatMap
    _ = _ := List.flatMap_congr fun node _ => below node

/-- The query `$[?@.on == $.on]`. -/
def switchedOn : Query where
  links := [.filter (.ofTerm (.binary .eq (.chain .current [.name "on"] false)
    (.chain .root [.name "on"] false)))]
  source := "$[?@.on == $.on]"

/-- The query `$..[?@.a[?@ > 0]]`. -/
def somePositive : Query where
  links := [.descendant (.ofTerm (.filter (.chain .current [.name "a", .filter (.ofTerm
    (.binary .gt (.ofTerm .current) (.ofTerm (.number (.int 0)))))] false)))]
  source := "$..[?@.a[?@ > 0]]"

/-- The document `{"on": 1, "p": {"on": 1, "x": {"a": [1]}}, "q": {"on": 0, "x": {"a": [1]}}}`. -/
def switchesDocument : Json :=
  .object [("on", .int 1),
    ("p", .object [("on", .int 1), ("x", .object [("a", .array [.int 1])])]),
    ("q", .object [("on", .int 0), ("x", .object [("a", .array [.int 1])])])]

/-- The front part looks at the whole document, the back part at what the front part finds. -/
theorem Query.located_run_append_switches :
    ∃ q, Query.compile "$[?@.on == $.on]..[?@.a[?@ > 0]]" = .ok q ∧
      q.links = switchedOn.links ++ somePositive.links ∧
      Term.allRelative somePositive.links = true ∧ Term.allRelative switchedOn.links = false ∧
      (q.run switchesDocument).map (fun node => (node.location, node.value)) =
        (switchedOn.run switchesDocument).flatMap (fun node =>
          (somePositive.run node.value).map fun found =>
            (node.location ++ found.location, found.value)) ∧
      q.locate switchesDocument = [("$['p']['x']", .object [("a", .array [.int 1])])] := by
  have read : Token.ofQuery "$[?@.on == $.on]..[?@.a[?@ > 0]]" = .ok
      [⟨.root, "$", none, ⟨0, 1⟩⟩, ⟨.leftBracket, "[", none, ⟨1, 1⟩⟩,
        ⟨.question, "?", none, ⟨2, 1⟩⟩, ⟨.current, "@", none, ⟨3, 1⟩⟩, ⟨.dot, ".", none, ⟨4, 1⟩⟩,
        ⟨.identifier, "on", none, ⟨5, 2⟩⟩, ⟨.eq, "==", none, ⟨8, 2⟩⟩, ⟨.root, "$", none, ⟨11, 1⟩⟩,
        ⟨.dot, ".", none, ⟨12, 1⟩⟩, ⟨.identifier, "on", none, ⟨13, 2⟩⟩,
        ⟨.rightBracket, "]", none, ⟨15, 1⟩⟩, ⟨.doubleDot, "..", none, ⟨16, 2⟩⟩,
        ⟨.leftBracket, "[", none, ⟨18, 1⟩⟩, ⟨.question, "?", none, ⟨19, 1⟩⟩,
        ⟨.current, "@", none, ⟨20, 1⟩⟩, ⟨.dot, ".", none, ⟨21, 1⟩⟩,
        ⟨.identifier, "a", none, ⟨22, 1⟩⟩, ⟨.leftBracket, "[", none, ⟨23, 1⟩⟩,
        ⟨.question, "?", none, ⟨24, 1⟩⟩, ⟨.current, "@", none, ⟨25, 1⟩⟩, ⟨.gt, ">", none, ⟨27, 1⟩⟩,
        ⟨.number, "0", some (.number (.int 0)), ⟨29, 1⟩⟩, ⟨.rightBracket, "]", none, ⟨30, 1⟩⟩,
        ⟨.rightBracket, "]", none, ⟨31, 1⟩⟩, Token.endAt 32] := by decide +kernel
  have compiled : Query.compile "$[?@.on == $.on]..[?@.a[?@ > 0]]" =
      .ok ⟨switchedOn.links ++ somePositive.links, "$[?@.on == $.on]..[?@.a[?@ > 0]]"⟩ :=
    Query.compile_eq_ok_iff.mpr ⟨_, read, rfl⟩
  exact ⟨_, compiled, rfl, rfl, rfl, located_run_append rfl rfl switchesDocument, by cbv⟩

end JsonQuery

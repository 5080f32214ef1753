import Mathlib.Tactic
import JsonQuery.Query.Evaluation
import JsonQuery.Proofs.SliceIndices
import JsonQuery.Proofs.Steps

/-! # Node lists

What a query selects, one segment after the other: every segment turns a whole list of nodes into
the next one. A query that hands its nodes on one at a time finds the same nodes in the same order.
-/

namespace JsonQuery

/-- A value and the keys that lead to it from the root. -/
abbrev Located := Location × Json

namespace Json

/-- What lies directly inside a value: items by index, members in the order of the object. -/
def entries : Json → List (Key × Json)
  | .array items => items.zipIdx.map fun (item, index) => (.index index, item)
  | .object members => members.map fun (name, value) => (.name name, value)
  | _ => []

theorem sizeOf_entries {value : Json} {entry : Key × Json} (member : entry ∈ value.entries) :
    sizeOf entry.2 < sizeOf value := by
  cases value with
  | array items =>
      obtain ⟨⟨item, index⟩, isItem, rfl⟩ := List.mem_map.mp member
      have small : sizeOf item < sizeOf items :=
        List.sizeOf_lt_of_mem (List.fst_mem_of_mem_zipIdx isItem)
      simp only [Json.array.sizeOf_spec]
      omega
  | object members =>
      obtain ⟨⟨name, inner⟩, isMember, rfl⟩ := List.mem_map.mp member
      have small := List.sizeOf_lt_of_mem isMember
      simp only [Json.object.sizeOf_spec, Prod.mk.sizeOf_spec] at small ⊢
      omega
  | _ => cases member

end Json

namespace Located

def among (node : Located) (entries : List (Key × Json)) : List Located :=
  entries.map fun (key, value) => (node.1 ++ [key], value)

def inside (node : Located) : List Located := node.among node.2.entries

theorem sizeOf_inside {node child : Located} (member : child ∈ node.inside) :
    sizeOf child.2 < sizeOf node.2 := by
  obtain ⟨entry, isEntry, rfl⟩ := List.mem_map.mp member
  exact Json.sizeOf_entries isEntry

/-- A node and all nodes below it, each before what lies inside it. -/
def preorder (node : Located) : List Located :=
  node :: node.inside.attach.flatMap fun child => preorder child.1
termination_by sizeOf node.2
decreasing_by exact sizeOf_inside child.2

theorem preorder_eq (node : Located) : node.preorder = node :: node.inside.flatMap preorder := by
  rw [preorder]
  simp

def member (node : Located) (name : String) : List Located :=
  node.among (node.2.entries.find? fun entry => entry.1 = .name name).toList

/-- Whether a key is that of an index, counted from the first of `length` items or from behind the
    last. -/
def isAt (length : Nat) (index : Int) : Key → Bool
  | .name _ => false
  | .index position => position = index ∨ position = index + length

def item (node : Located) (index : Int) : List Located :=
  node.among (node.2.entries.filter fun entry => isAt node.2.entries.length index entry.1)

def slice (node : Located) (start stop step : Option Int) : List Located :=
  match node.2 with
  | .array items =>
      node.among ((Slice.selected items.length start stop step).filterMap fun position =>
        items[position]?.map fun item => (.index position, item))
  | _ => []

end Located

/-! ## What expressions select -/

mutual
def Term.select (document : Json) (term : Term) (node : Located) : List Located :=
  match term with
  | .root => [([], document)]
  | .current => [node]
  | .name name => node.member name
  | .index index => node.item index
  | .wildcard => node.inside
  | .slice start stop step => node.slice start stop step
  | .filter condition =>
      node.inside.filter fun child => (condition.outcome document child.2).isTrue
  | .child selectors => Expr.selectAll document selectors node
  | .descendant selector => node.preorder.flatMap (selector.select document)
  | .binary .. | .not _ | .call .. | .string _ | .number _ | .bool _ | .null => []
termination_by structural term

/-- What a selector selects that another term holds. -/
def Expr.select (document : Json) (selector : Expr) (node : Located) : List Located :=
  match selector with
  | .chain head _ _ => head.select document node
termination_by structural selector

def Expr.selectAll (document : Json) (selectors : List Expr) (node : Located) : List Located :=
  match selectors with
  | [] => []
  | selector :: rest => selector.select document node ++ Expr.selectAll document rest node
termination_by structural selectors

/-- The list of nodes that the segments of a chain make of a list of nodes. -/
def Term.nodeList (document : Json) (links : List Term) (nodes : List Located) : List Located :=
  match links with
  | [] => nodes
  | term :: rest => Term.nodeList document rest (nodes.flatMap (term.select document))
termination_by structural links

/-- The outcome of a condition for the value `current`. -/
def Expr.outcome (document : Json) (e : Expr) (current : Json) : Outcome :=
  match e with
  | .chain head links _ =>
      match head with
      | .root => .nodes ((Term.nodeList document links [([], document)]).map Prod.snd)
      | .current => .nodes ((Term.nodeList document links [([], current)]).map Prod.snd)
      | .binary .and left right =>
          .logical ((left.outcome document current).isTrue && (right.outcome document current).isTrue)
      | .binary .or left right =>
          .logical ((left.outcome document current).isTrue || (right.outcome document current).isTrue)
      | .binary operator left right =>
          .logical (operator.compare (left.outcome document current).operand?
            (right.outcome document current).operand?)
      | .not operand => .logical (!(operand.outcome document current).isTrue)
      | .call function arguments =>
          function.apply (Expr.outcomes document function.parameters arguments current)
      | .string value => .value (.string value)
      | .number value => .value (.number value)
      | .bool value => .value (.bool value)
      | .null => .value .null
      | .name _ | .index _ | .wildcard | .slice .. | .filter _ | .child _ | .descendant _ => .nothing
termination_by structural e

def Expr.outcomes (document : Json) (parameters : List Parameter) (arguments : List Expr)
    (current : Json) : List Outcome :=
  match arguments with
  | [] => []
  | argument :: rest =>
      match parameters with
      | [] => []
      | parameter :: parameters =>
          (argument.outcome document current).asArgument parameter ::
            Expr.outcomes document parameters rest current
termination_by structural arguments
end

def Query.nodeList (q : Query) (document : Json) : List Located :=
  Term.nodeList document q.links [([], document)]

/-! ## The steps of a single node -/

/-- A node without the container it lies in. -/
def Node.located (node : Node) : Located := (node.location, node.value)

namespace Node

@[simp] theorem located_root (document : Json) : (root document).located = ([], document) := rfl

@[simp] theorem located_child (node : Node) (key : Key) (value : Json) :
    (node.child key value).located = (node.location ++ [key], value) := by
  simp [located]

theorem itemsFrom_eq (node : Node) (position : Nat) (items : List Json) :
    node.itemsFrom position items =
      (items.zipIdx position).map fun (item, index) => node.child (.index index) item := by
  induction items generalizing position with
  | nil => rfl
  | cons item rest ih => simp [itemsFrom, ih (position + 1)]

theorem children_eq (node : Node) :
    node.children = node.value.entries.map fun (key, value) => node.child key value := by
  cases isValue : node.value with
  | array items =>
      simp only [children, isValue, Json.entries, itemsFrom_eq, List.map_map]
      rfl
  | object members =>
      simp only [children, isValue, Json.entries, List.map_map]
      rfl
  | _ => simp only [children, isValue, Json.entries, List.map_nil]

theorem exists_entry {node child : Node} (isChild : child ∈ node.children) :
    ∃ entry ∈ node.value.entries, child = node.child entry.1 entry.2 := by
  rw [children_eq] at isChild
  obtain ⟨entry, isEntry, rfl⟩ := List.mem_map.mp isChild
  exact ⟨entry, isEntry, rfl⟩

theorem sizeOf_children {node child : Node} (isChild : child ∈ node.children) :
    sizeOf child.value < sizeOf node.value := by
  obtain ⟨entry, isEntry, rfl⟩ := exists_entry isChild
  exact Json.sizeOf_entries isEntry

theorem located_children (node : Node) : node.children.map located = node.located.inside := by
  rw [children_eq, List.map_map]
  exact List.map_congr_left fun entry _ => located_child node entry.1 entry.2

theorem lookup_eq_find? (name : String) (members : List (String × Json)) :
    ((Json.object members).entries.find? fun entry => entry.1 = .name name) =
      (Json.lookup name members).map fun value => (.name name, value) := by
  induction members with
  | nil => rfl
  | cons member rest ih =>
      obtain ⟨key, value⟩ := member
      simp only [Json.entries, List.map_cons, List.find?_cons, Json.lookup] at ih ⊢
      by_cases same : key = name
      · simp [same]
      · simp [same, ih]

theorem located_member? (node : Node) (name : String) :
    (node.member? name).toList.map located = node.located.member name := by
  obtain ⟨trail, value, parent⟩ := node
  cases value with
  | object members =>
      simp only [member?, Located.member, located, lookup_eq_find?]
      cases Json.lookup name members with
      | none => rfl
      | some value => simp [Located.among, location]
  | array items =>
      have none : ((Json.array items).entries.find? fun entry => entry.1 = .name name) = none := by
        refine List.find?_eq_none.mpr fun entry isEntry => ?_
        obtain ⟨_, _, rfl⟩ := List.mem_map.mp isEntry
        simp
      simp [member?, Located.member, located, none, Located.among]
  | _ => rfl

theorem filter_zipIdx_eq (items : List Json) (first position : Nat) :
    (items.zipIdx first).filter (fun entry => entry.2 = first + position) =
      (items[position]?.map fun item => (item, first + position)).toList := by
  induction items generalizing first position with
  | nil => rfl
  | cons item rest ih =>
      rw [List.zipIdx_cons]
      cases position with
      | zero =>
          have others : (rest.zipIdx (first + 1)).filter (fun entry => entry.2 = first + 0) = [] := by
            refine List.filter_eq_nil_iff.mpr fun entry isEntry => ?_
            have := List.le_snd_of_mem_zipIdx isEntry
            simp only [decide_eq_true_eq]
            omega
          rw [List.filter_cons_of_pos (by simp), others]
          rfl
      | succ position =>
          have next := ih (first + 1) position
          rw [show first + 1 + position = first + (position + 1) by omega] at next
          rw [List.filter_cons_of_neg (by simp), next]
          simp

theorem isAt_iff {length position : Nat} (inside : position < length) (index : Int) :
    Located.isAt length index (.index position) = true ↔
      normalizeIndex? length index = some position := by
  simp only [Located.isAt, normalizeIndex?, decide_eq_true_eq]
  split_ifs <;> simp only [Option.some.injEq, iff_false] <;> omega

theorem filter_isAt (items : List Json) (index : Int) :
    (Json.array items).entries.filter (fun entry => Located.isAt items.length index entry.1) =
      ((normalizeIndex? items.length index).bind fun position =>
        items[position]?.map fun item => (.index position, item)).toList := by
  have within : ∀ entry ∈ items.zipIdx, entry.2 < items.length := by
    intro entry isEntry
    simpa using List.snd_lt_of_mem_zipIdx isEntry
  rw [Json.entries, List.filter_map]
  cases same : normalizeIndex? items.length index with
  | none =>
      refine List.map_eq_nil_iff.mpr (List.filter_eq_nil_iff.mpr fun entry isEntry isAt => ?_)
      have := (isAt_iff (within entry isEntry) index).mp isAt
      rw [same] at this
      cases this
  | some position =>
      have single := filter_zipIdx_eq items 0 position
      rw [Nat.zero_add] at single
      have congr : items.zipIdx.filter
          ((fun entry => Located.isAt items.length index entry.1) ∘
            fun (item, index) => (Key.index index, item)) =
          items.zipIdx.filter fun entry => entry.2 = position := by
        refine List.filter_congr fun entry isEntry => ?_
        rw [Bool.eq_iff_iff, Function.comp_apply, isAt_iff (within entry isEntry), same]
        simp [eq_comm]
      rw [congr, single, Option.bind_some]
      cases items[position]? <;> rfl

theorem located_item? (node : Node) (index : Int) :
    (node.item? index).toList.map located = node.located.item index := by
  obtain ⟨trail, value, parent⟩ := node
  cases value with
  | array items =>
      have length : (Json.array items).entries.length = items.length := by simp [Json.entries]
      simp only [item?, Located.item, located, length, filter_isAt]
      cases normalizeIndex? items.length index with
      | none => rfl
      | some position =>
          cases same : items[position]? with
          | none => simp [itemAt?, same, Located.among]
          | some item => simp [itemAt?, same, Located.among, location]
  | object members =>
      have empty : (Json.object members).entries.filter (fun entry =>
          Located.isAt (Json.object members).entries.length index entry.1) = [] := by
        refine List.filter_eq_nil_iff.mpr fun entry isEntry => ?_
        obtain ⟨_, _, rfl⟩ := List.mem_map.mp isEntry
        simp [Located.isAt]
      simp [item?, Located.item, located, empty, Located.among]
  | _ => rfl

theorem located_slice (node : Node) (start stop step : Option Int) :
    (node.slice start stop step).map located = node.located.slice start stop step := by
  obtain ⟨trail, value, parent⟩ := node
  cases value with
  | array items =>
      simp only [slice, Located.slice, located, Slice.indices_eq_selected, Located.among,
        List.map_filterMap]
      refine List.filterMap_congr fun position _ => ?_
      cases same : items[position]? with
      | none => simp [itemAt?, same]
      | some item => simp [itemAt?, same, location]
  | _ => rfl

theorem belowItems_eq (node : Node) (position : Nat) (items : List Json) :
    belowItems node.trail node.value position items =
      (node.itemsFrom position items).flatMap selfAndBelow := by
  induction items generalizing position with
  | nil => rfl
  | cons item rest ih =>
      rw [belowItems, ih (position + 1)]
      rfl

theorem belowMembers_eq (node : Node) (members : List (String × Json)) :
    belowMembers node.trail node.value members =
      (members.map fun (name, value) => node.child (.name name) value).flatMap selfAndBelow := by
  induction members with
  | nil => rfl
  | cons member rest ih =>
      obtain ⟨name, value⟩ := member
      rw [belowMembers, ih]
      rfl

theorem selfAndBelow_eq (node : Node) :
    node.selfAndBelow = node :: node.children.flatMap selfAndBelow := by
  obtain ⟨trail, value, parent⟩ := node
  cases value with
  | array items =>
      have inside := belowItems_eq ⟨trail, .array items, parent⟩ 0 items
      rw [selfAndBelow, below, inside]
      rfl
  | object members =>
      have inside := belowMembers_eq ⟨trail, .object members, parent⟩ members
      rw [selfAndBelow, below, inside]
      rfl
  | _ => rfl

theorem located_selfAndBelow (node : Node) :
    node.selfAndBelow.map located = node.located.preorder := by
  induction size : sizeOf node.value using Nat.strong_induction_on generalizing node with
  | _ _ ih =>
      rw [selfAndBelow_eq, Located.preorder_eq, List.map_cons, List.map_flatMap, ← located_children,
        List.flatMap_map]
      congr 1
      exact List.flatMap_congr fun child isChild => ih _ (size ▸ sizeOf_children isChild) child rfl

end Node

/-! ## Handing on one node at a time -/

mutual
/-- What is handed on depends on the term alone, and not on what is done with it. -/
theorem Term.visit_eq_flatMap (document : Json) (term : Term) (next : Node → List Node)
    (node : Node) :
    term.visit document next node = (term.visit document (fun found => [found]) node).flatMap next := by
  cases term with
  | child selectors =>
      simp only [Term.visit]
      exact Expr.visitAll_eq_flatMap document selectors next node
  | _ => simp [Term.visit]
termination_by sizeOf term

theorem Expr.visit_eq_flatMap (document : Json) (selector : Expr) (next : Node → List Node)
    (node : Node) :
    selector.visit document next node =
      (selector.visit document (fun found => [found]) node).flatMap next := by
  cases selector with
  | chain head links grouped => exact head.visit_eq_flatMap document next node
termination_by sizeOf selector

theorem Expr.visitAll_eq_flatMap (document : Json) (selectors : List Expr)
    (next : Node → List Node) (node : Node) :
    Expr.visitAll document selectors next node =
      (Expr.visitAll document selectors (fun found => [found]) node).flatMap next := by
  cases selectors with
  | nil => rfl
  | cons selector rest =>
      simp only [Expr.visitAll, List.flatMap_append]
      rw [selector.visit_eq_flatMap, Expr.visitAll_eq_flatMap document rest]
termination_by sizeOf selectors
end

theorem Expr.mem_visitAll {document : Json} {selectors : List Expr} {next : Node → List Node}
    {node found : Node} : found ∈ Expr.visitAll document selectors next node ↔
      ∃ selector ∈ selectors, found ∈ selector.head.visit document next node := by
  induction selectors with
  | nil => simp [Expr.visitAll]
  | cons selector rest ih =>
      obtain ⟨head, links, grouped⟩ := selector
      simp [Expr.visitAll, Expr.visit, Expr.head, ih]

theorem Term.visit_descendant (document : Json) (selector : Expr) (node : Node) :
    (Term.descendant selector).visit document (fun found => [found]) node =
      node.selfAndBelow.flatMap (selector.head.visit document fun found => [found]) := by
  obtain ⟨head, links, grouped⟩ := selector
  rw [Term.visit, List.flatMap_singleton']
  rfl

theorem Term.follow_append (document : Json) (front back : List Term) (node : Node) :
    Term.follow document (front ++ back) node =
      (Term.follow document front node).flatMap (Term.follow document back) := by
  induction front generalizing node with
  | nil => simp [Term.follow]
  | cons term rest ih =>
      have onward : Term.follow document (rest ++ back) =
          fun found => (Term.follow document rest found).flatMap (Term.follow document back) :=
        funext ih
      rw [List.cons_append, Term.follow, Term.follow, onward, term.visit_eq_flatMap,
        term.visit_eq_flatMap document (Term.follow document rest), List.flatMap_assoc]

theorem Term.flatMap_follow_cons (document : Json) (term : Term) (rest : List Term)
    (nodes : List Node) :
    nodes.flatMap (Term.follow document (term :: rest)) =
      (nodes.flatMap (term.visit document fun found => [found])).flatMap
        (Term.follow document rest) := by
  rw [List.flatMap_assoc]
  apply List.flatMap_congr
  intro node _
  rw [Term.follow, term.visit_eq_flatMap]

theorem Term.nodeList_eq_flatMap (document : Json) (links : List Term) (nodes : List Located) :
    Term.nodeList document links nodes =
      nodes.flatMap fun node => Term.nodeList document links [node] := by
  induction links generalizing nodes with
  | nil => simp [Term.nodeList]
  | cons term rest ih =>
      simp only [Term.nodeList]
      rw [ih (nodes.flatMap (term.select document)), List.flatMap_assoc]
      refine List.flatMap_congr fun node _ => ?_
      rw [List.flatMap_singleton, ih (term.select document node)]

/-! ## The induction over the syntax -/

mutual
theorem Term.located_visit (document : Json) (term : Term) (node : Node) :
    (term.visit document (fun found => [found]) node).map Node.located =
      term.select document node.located := by
  cases term with
  | name name =>
      simp only [Term.visit, Term.select, List.flatMap_singleton']
      exact node.located_member? name
  | index index =>
      simp only [Term.visit, Term.select, List.flatMap_singleton']
      exact node.located_item? index
  | wildcard =>
      simp only [Term.visit, Term.select, List.flatMap_singleton']
      exact node.located_children
  | slice start stop step =>
      simp only [Term.visit, Term.select, List.flatMap_singleton']
      exact node.located_slice start stop step
  | filter condition =>
      have same : (fun child : Node => (condition.eval document child.value).isTrue) =
          (fun child : Located => (condition.outcome document child.2).isTrue) ∘ Node.located := by
        funext child
        rw [condition.eval_eq_outcome]
        rfl
      simp only [Term.visit, Term.select, List.flatMap_singleton']
      rw [same, ← List.filter_map, node.located_children]
  | child selectors =>
      simp only [Term.visit, Term.select]
      exact Expr.located_visitAll document selectors node
  | descendant selector =>
      simp only [Term.visit, Term.select, List.flatMap_singleton', List.map_flatMap]
      rw [← node.located_selfAndBelow, List.flatMap_map]
      exact List.flatMap_congr fun visited _ => selector.located_visit document visited
  | _ => simp [Term.visit, Term.select]
termination_by sizeOf term

theorem Expr.located_visit (document : Json) (selector : Expr) (node : Node) :
    (selector.visit document (fun found => [found]) node).map Node.located =
      selector.select document node.located := by
  cases selector with
  | chain head links grouped => exact head.located_visit document node
termination_by sizeOf selector

theorem Expr.located_visitAll (document : Json) (selectors : List Expr) (node : Node) :
    (Expr.visitAll document selectors (fun found => [found]) node).map Node.located =
      Expr.selectAll document selectors node.located := by
  cases selectors with
  | nil => rfl
  | cons selector rest =>
      simp only [Expr.visitAll, Expr.selectAll, List.map_append]
      rw [selector.located_visit document node, Expr.located_visitAll document rest node]
termination_by sizeOf selectors

theorem Term.located_follow (document : Json) (links : List Term) (node : Node) :
    (Term.follow document links node).map Node.located =
      Term.nodeList document links [node.located] := by
  cases links with
  | nil => rfl
  | cons term rest =>
      simp only [Term.follow, Term.nodeList, List.flatMap_singleton]
      rw [term.visit_eq_flatMap, List.map_flatMap, Term.nodeList_eq_flatMap,
        ← term.located_visit document node, List.flatMap_map]
      exact List.flatMap_congr fun found _ => Term.located_follow document rest found
termination_by sizeOf links

/-- A condition has the outcome that the node lists of its queries give it. -/
theorem Expr.eval_eq_outcome (document : Json) (e : Expr) (current : Json) :
    e.eval document current = e.outcome document current := by
  have values : ∀ (links : List Term) (start : Json),
      (Term.follow document links (.root start)).map Node.located =
        Term.nodeList document links [([], start)] →
      Outcome.ofNodes (Term.follow document links (.root start)) =
        .nodes ((Term.nodeList document links [([], start)]).map Prod.snd) := by
    intro links start same
    rw [← same, List.map_map]
    rfl
  cases e with
  | chain head links grouped =>
  cases head with
  | root =>
      simp only [Expr.eval, Expr.outcome]
      exact values links document (Term.located_follow document links (.root document))
  | current =>
      simp only [Expr.eval, Expr.outcome]
      exact values links current (Term.located_follow document links (.root current))
  | binary operator left right =>
      cases operator <;>
        simp only [Expr.eval, Expr.outcome, left.eval_eq_outcome, right.eval_eq_outcome]
  | not operand => simp only [Expr.eval, Expr.outcome, operand.eval_eq_outcome]
  | call function arguments =>
      simp only [Expr.eval, Expr.outcome]
      rw [Expr.evalAll_eq_outcomes document function.parameters arguments current]
  | _ => rfl
termination_by sizeOf e

theorem Expr.evalAll_eq_outcomes (document : Json) (parameters : List Parameter)
    (arguments : List Expr) (current : Json) :
    Expr.evalAll document parameters arguments current =
      Expr.outcomes document parameters arguments current := by
  cases arguments with
  | nil => rfl
  | cons argument rest =>
      cases parameters with
      | nil => rfl
      | cons parameter parameters =>
          simp only [Expr.evalAll, Expr.outcomes]
          rw [argument.eval_eq_outcome, Expr.evalAll_eq_outcomes document parameters rest current]
termination_by sizeOf arguments
end

/-! ## Whole queries -/

theorem Query.located_run (q : Query) (document : Json) :
    (q.run document).map Node.located = q.nodeList document :=
  Term.located_follow document q.links (.root document)

/-- Running, searching, showing and locating all report the node list of the query, and so do its
    steps where it has any, as every compiled query does. -/
theorem Query.reports_nodeList (q : Query) (document : Json) :
    (q.run document).map (fun node => (node.location, node.value)) = q.nodeList document ∧
      (∀ step, q.step? = some step →
        (step.run document (.root document)).map (fun node => (node.location, node.value)) =
          q.nodeList document) ∧
      (∀ source, Query.compile source = .ok q → ∃ step, q.step? = some step) ∧
      q.search document = (q.nodeList document).map (fun found => found.2) ∧
      q.locate document = (q.nodeList document).map (fun found => (found.1.text, found.2)) ∧
      ∀ (σ : Type) (report : Location → Json → StateM σ Unit),
        q.each (fun node => report node.location node.value) document =
          (q.nodeList document).forM fun found => report found.1 found.2 := by
  have run := q.located_run document
  refine ⟨run, ?_, fun _ ok => q.exists_step (structured_of_compile ok), ?_, ?_, ?_⟩
  · intro step isStep
    rw [Query.run_step isStep]
    exact run
  · rw [← run, List.map_map]
    rfl
  · rw [← run, List.map_map]
    rfl
  · intro σ report
    rw [← run]
    exact (List.forM_map (m := StateM σ) (l := q.run document) (g := Node.located)
      (f := fun found => report found.1 found.2)).symm

/-- Two selectors in one pair of brackets that meet at an item, behind a segment that descends. -/
def meetingSelectors : Query where
  links := [.descendant (.ofTerm (.name "b")), .child [.ofTerm .wildcard,
    .ofTerm (.filter (.chain .current [.name "c"] false))]]
  source := "$..b[*, ?@.c]"

theorem Query.reports_nodeList_meeting :
    let document := Json.object
      [("a", .object [("b", .array [.object [("c", .int 1)], .int 2])]), ("b", .array [.int 3])]
    Query.compile "$..b[*, ?@.c]" = .ok meetingSelectors ∧
      ∃ step, meetingSelectors.step? = some step ∧
        (step.run document (.root document)).map (fun node => (node.location, node.value)) =
          [([.name "b", .index 0], .int 3),
            ([.name "a", .name "b", .index 0], .object [("c", .int 1)]),
            ([.name "a", .name "b", .index 1], .int 2),
            ([.name "a", .name "b", .index 0], .object [("c", .int 1)])] := by
  intro document
  have compiled : Query.compile "$..b[*, ?@.c]" = .ok meetingSelectors :=
    Query.compile_eq_ok_iff.mpr ⟨_, by conv_lhs => cbv, rfl⟩
  obtain ⟨run, steps, exists_step, -⟩ := Query.reports_nodeList meetingSelectors document
  obtain ⟨step, isStep⟩ := exists_step _ compiled
  refine ⟨compiled, step, isStep, (steps step isStep).trans (run.symm.trans ?_)⟩
  rfl

end JsonQuery

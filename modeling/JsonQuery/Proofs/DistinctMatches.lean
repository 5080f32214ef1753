import JsonQuery.Proofs.Containers
import JsonQuery.Proofs.Shapes

/-! # Matches without repetitions

Only unions and nested subtrees make a query find a node twice. Until the first descendant segment
all nodes lie equally deep, so their subtrees have nothing in common. Behind it they may lie inside
one another, but a selector still finds different nodes at different places, since a location tells
from which container it was reached.
-/

namespace JsonQuery

/-! ## Paths tell locations apart -/

namespace Key

open Token Text

theorem toList_text_name (member : String) :
    (name member).text.toList = '[' :: (quotedChars member.toList ++ [']']) := by
  simp [text, quoted]

theorem toList_text_index (position : Nat) :
    (index position).text.toList = '[' :: (Nat.toDigits 10 position ++ [']']) := by
  simp [text, natText]

theorem toDigits_append_ne (position : Nat) (name rest rest' : List Char) :
    Nat.toDigits 10 position ++ rest ≠ quotedChars name ++ rest' := by
  intro same
  have isHead := congrArg List.head? same
  rw [List.head?_append_of_ne_nil _ Nat.toDigits_ne_nil] at isHead
  cases isDigit_toDigits (List.mem_of_head? isHead)

/-- The text of a key is that of no other key, whatever stands behind it. -/
theorem text_append_inj {a b : Key} {rest rest' : List Char}
    (same : a.text.toList ++ rest = b.text.toList ++ rest') : a = b := by
  have bracket : ∀ (more : List Char) c, (']' :: more).head? = some c → isDigit c = false := by
    intro more c isHead
    cases isHead
    rfl
  cases a <;> cases b <;>
    simp only [toList_text_name, toList_text_index, List.cons_append, List.append_assoc,
      List.cons.injEq, true_and] at same
  case name.name => rw [String.toList_inj.mp (quotedChars_append_inj same)]
  case name.index => exact absurd same.symm (toDigits_append_ne _ _ _ _)
  case index.name => exact absurd same (toDigits_append_ne _ _ _ _)
  case index.index => rw [toDigits_append_inj same (bracket rest) (bracket rest')]

theorem toList_text_ne_nil (key : Key) : key.text.toList ≠ [] := by
  cases key <;> simp [toList_text_name, toList_text_index]

end Key

namespace Location

theorem keysText_injective : Function.Injective fun keys => (keysText keys).toList := by
  intro a b same
  induction a generalizing b with
  | nil =>
      cases b with
      | nil => rfl
      | cons key rest => simp [keysText, key.toList_text_ne_nil] at same
  | cons key rest ih =>
      cases b with
      | nil => simp [keysText, key.toList_text_ne_nil] at same
      | cons other others =>
          simp only [keysText, String.toList_append] at same
          obtain rfl := Key.text_append_inj same
          rw [ih (List.append_cancel_left same)]

/-- Different locations have different paths, whether their indices are safe integers or not. -/
theorem text_injective : Function.Injective text := by
  intro a b same
  have chars := congrArg String.toList same
  simp only [text, String.toList_append] at chars
  exact keysText_injective (List.append_cancel_left chars)

end Location

/-! ## Subtrees -/

namespace Node

/-- What is picked at different nodes is different if its location tells at which node it was
    picked. -/
theorem nodup_flatMap {nodes : List Node} {pick : Node → List Node} (origin : Location → Location)
    (different : (nodes.map location).Nodup)
    (each : ∀ node ∈ nodes, ((pick node).map location).Nodup)
    (back : ∀ node ∈ nodes, ∀ found ∈ pick node, origin found.location = node.location) :
    ((nodes.flatMap pick).map location).Nodup := by
  rw [List.map_flatMap, List.nodup_flatMap]
  refine ⟨each, (List.pairwise_map.mp different).imp_of_mem ?_⟩
  intro a b isA isB differ place fromA fromB
  obtain ⟨found, isFound, rfl⟩ := List.mem_map.mp fromA
  obtain ⟨other, isOther, same⟩ := List.mem_map.mp fromB
  have originA := back a isA found isFound
  have originB := back b isB other isOther
  rw [same, originA] at originB
  exact differ originB

theorem nodup_among (node : Node) {entries : List (Key × Json)}
    (different : (entries.map Prod.fst).Nodup) : ((node.among entries).map location).Nodup := by
  have locations : (node.among entries).map location =
      (entries.map Prod.fst).map fun key => node.location ++ [key] := by
    simp [among]
  rw [locations]
  apply different.map
  intro a b same
  simpa using same

/-- Nothing comes before what it lies inside, and nothing comes twice. -/
def ContainersFirst (nodes : List Node) : Prop :=
  nodes.Pairwise fun a b => ¬b.location <+: a.location

theorem ContainersFirst.nodup {nodes : List Node} (ordered : ContainersFirst nodes) :
    (nodes.map location).Nodup := by
  apply List.pairwise_map.mpr
  apply ordered.imp
  intro a b apart same
  exact apart (same ▸ List.prefix_rfl)

variable {document : Json} {node : Node}

theorem Reached.containersFirst_children (sorted : document.Sorted)
    (reached : node.Reached document) : ContainersFirst node.children := by
  have sortedValue := sorted.at (reached.coherent sorted).value
  have different : (node.children.map location).Nodup := by
    rw [children_eq]
    exact node.nodup_among sortedValue.nodup_keys
  apply (List.pairwise_map.mp different).imp_of_mem
  intro a b isA isB differ within
  obtain ⟨entry, _, rfl⟩ := exists_entry isA
  obtain ⟨other, _, rfl⟩ := exists_entry isB
  exact differ (within.eq_of_length (by simp)).symm

theorem Reached.containersFirst_selfAndBelow (sorted : document.Sorted)
    (reached : node.Reached document) : ContainersFirst node.selfAndBelow := by
  induction size : sizeOf node.value using Nat.strong_induction_on generalizing node with
  | _ _ ih =>
      rw [ContainersFirst, selfAndBelow_eq, List.pairwise_cons, List.pairwise_flatMap]
      refine ⟨?_, ?_, ?_⟩
      · intro below isBelow within
        obtain ⟨child, isChild, isBelow⟩ := List.mem_flatMap.mp isBelow
        have deeper := (prefix_of_mem_selfAndBelow isBelow).trans within
        obtain ⟨entry, _, rfl⟩ := exists_entry isChild
        simpa using deeper.length_le
      · intro child isChild
        exact ih _ (size ▸ sizeOf_children isChild) (reached.children child isChild) rfl
      · -- Both children lead to `first`, and they lie equally deep.
        apply (reached.containersFirst_children sorted).imp_of_mem
        intro a b isA isB apart first isFirst second isSecond within
        apply apart
        have aboveFirst := prefix_of_mem_selfAndBelow isFirst
        have aboveSecond := (prefix_of_mem_selfAndBelow isSecond).trans within
        apply List.prefix_of_prefix_length_le aboveSecond aboveFirst
        obtain ⟨entry, _, rfl⟩ := exists_entry isA
        obtain ⟨other, _, rfl⟩ := exists_entry isB
        simp

theorem Reached.containersFirst_below (sorted : document.Sorted) (reached : node.Reached document) :
    ContainersFirst (node.selfAndBelow.flatMap Node.children) := by
  rw [ContainersFirst, List.pairwise_flatMap]
  constructor
  · intro visited isVisited
    exact (reached.selfAndBelow visited isVisited).containersFirst_children sorted
  · apply (reached.containersFirst_selfAndBelow sorted).imp
    intro a b apart first isFirst second isSecond within
    obtain ⟨entry, _, rfl⟩ := exists_entry isFirst
    obtain ⟨other, _, rfl⟩ := exists_entry isSecond
    rw [location_child, location_child, List.prefix_concat_iff] at within
    apply apart
    rcases within with same | above
    · rw [(List.append_inj' same rfl).1]
    · exact (List.prefix_append _ _).trans above

end Node

/-! ## Segments without unions -/

namespace Term

/-- Several selectors in one pair of brackets, for a node or for all nodes below. -/
def isBranching : Term → Bool
  | .child _ => true
  | .descendant selector => selector.head.isUnion
  | _ => false

/-- A single selector, for a node or for all nodes below. -/
def IsSingle (term : Term) : Prop :=
  term.isSelector = true ∨ ∃ selector, term = .descendant selector ∧ selector.head.isSelector = true

theorem isDescendant_of_isSelector {term : Term} (isSelector : term.isSelector = true) :
    term.isDescendant = false := by
  cases term <;> first | rfl | cases isSelector

theorem isSingle_of_isLink {term : Term} (isLink : term.isLink = true) (wf : term.WellFormed)
    (alone : term.isBranching = false) : term.IsSingle := by
  cases term with
  | descendant selector =>
      rw [Term.WellFormed] at wf
      rw [isBranching] at alone
      rw [alone, Bool.or_false] at wf
      exact .inr ⟨selector, rfl, wf.1⟩
  | child => cases alone
  | name | index | wildcard | slice | filter => exact .inl rfl
  | _ => cases isLink

variable {document : Json} {term : Term} {node : Node}

theorem nodup_of_isSelector (isSelector : term.isSelector = true) (sorted : document.Sorted)
    (reached : node.Reached document) :
    ((term.visit document (fun found => [found]) node).map Node.location).Nodup := by
  obtain ⟨entries, same, ordered, perm, sublist⟩ := term.exists_entries document isSelector node
  have sortedValue := sorted.at (reached.coherent sorted).value
  have different := sortedValue.nodup_keys.sublist (sublist.map Prod.fst)
  rw [same]
  exact node.nodup_among ((perm.map Prod.fst).nodup_iff.mp different)

theorem nodup_flatMap_of_isSelector (isSelector : term.isSelector = true) (sorted : document.Sorted)
    {nodes : List Node} (reached : ∀ node ∈ nodes, node.Reached document)
    (different : (nodes.map Node.location).Nodup) :
    ((nodes.flatMap (term.visit document fun found => [found])).map Node.location).Nodup := by
  apply Node.nodup_flatMap List.dropLast different
  · intro node isNode
    exact nodup_of_isSelector isSelector sorted (reached node isNode)
  · intro node _ found picked
    obtain ⟨entry, _, rfl⟩ := exists_entry_of_isSelector isSelector picked
    rw [Node.location_child, List.dropLast_concat]

/-- Nodes that lie equally deep have different nodes below them. -/
theorem nodup_flatMap_of_descendant {selector : Expr} (isSelector : selector.head.isSelector = true)
    (sorted : document.Sorted) {nodes : List Node} (reached : ∀ node ∈ nodes, node.Reached document)
    (different : (nodes.map Node.location).Nodup) {depth : Nat}
    (level : ∀ node ∈ nodes, node.location.length = depth) :
    ((nodes.flatMap ((descendant selector).visit document fun found => [found])).map
      Node.location).Nodup := by
  apply Node.nodup_flatMap (List.take depth) different
  · intro node isNode
    have subtree := ((reached node isNode).containersFirst_selfAndBelow sorted).nodup
    rw [visit_descendant]
    exact nodup_flatMap_of_isSelector isSelector sorted (reached node isNode).selfAndBelow subtree
  · intro node isNode found picked
    rw [visit_descendant] at picked
    obtain ⟨visited, isVisited, picked⟩ := List.mem_flatMap.mp picked
    obtain ⟨entry, _, rfl⟩ := exists_entry_of_isSelector isSelector picked
    obtain ⟨below, isBelow⟩ := Node.prefix_of_mem_selfAndBelow isVisited
    rw [Node.location_child, ← isBelow, List.append_assoc]
    exact List.take_left' (level node isNode)

/-- A chain without unions that goes through subtrees at most once, and only where all nodes lie
    equally deep, finds nothing twice. -/
theorem nodup_follow {links : List Term} (single : ∀ term ∈ links, term.IsSingle)
    (sorted : document.Sorted) {nodes : List Node} (reached : ∀ node ∈ nodes, node.Reached document)
    (different : (nodes.map Node.location).Nodup)
    (once : links.countP isDescendant = 0 ∨ links.countP isDescendant ≤ 1 ∧
      ∃ depth, ∀ node ∈ nodes, node.location.length = depth) :
    ((nodes.flatMap (follow document links)).map Node.location).Nodup := by
  induction links generalizing nodes with
  | nil =>
      have same : nodes.flatMap (follow document []) = nodes := List.flatMap_singleton' nodes
      rwa [same]
  | cons term rest ih =>
      obtain ⟨first, others⟩ := List.forall_mem_cons.mp single
      have picked : ∀ found ∈ nodes.flatMap (term.visit document fun found => [found]),
          found.Reached document := by
        intro found isFound
        obtain ⟨node, isNode, isFound⟩ := List.mem_flatMap.mp isFound
        exact term.reached_of_visit (reached node isNode) isFound
      rw [flatMap_follow_cons]
      rw [List.countP_cons] at once
      -- Selectors keep nodes equally deep, and behind a descendant segment no other one follows.
      rcases first with isSelector | ⟨selector, rfl, isSelector⟩
      · rw [isDescendant_of_isSelector isSelector] at once
        apply ih others picked (nodup_flatMap_of_isSelector isSelector sorted reached different)
        apply once.imp id
        intro ⟨most, depth, level⟩
        refine ⟨most, depth + 1, ?_⟩
        intro found isFound
        obtain ⟨node, isNode, isFound⟩ := List.mem_flatMap.mp isFound
        obtain ⟨entry, _, rfl⟩ := exists_entry_of_isSelector isSelector isFound
        rw [Node.location_child, List.length_append, level node isNode, List.length_singleton]
      · have isDescendant : (descendant selector).isDescendant = true := rfl
        rw [isDescendant, if_pos rfl] at once
        rcases once with never | ⟨most, depth, level⟩
        · omega
        · exact ih others picked
            (nodup_flatMap_of_descendant isSelector sorted reached different level)
            (.inl (by omega))

end Term

/-! ## Whole queries -/

namespace Node

theorem distinct_eq_self {nodes : List Node} (different : (nodes.map location).Nodup) :
    distinct nodes = nodes := by
  induction nodes with
  | nil => rfl
  | cons node rest ih =>
      obtain ⟨first, others⟩ := List.nodup_cons.mp different
      rw [distinct, ih others, List.filter_eq_self.mpr]
      intro other isOther
      have differ : other.location ≠ node.location := fun same =>
        first (List.mem_map.mpr ⟨other, isOther, same⟩)
      simpa using differ

theorem marked_eq_self {nodes : List Node} (different : (nodes.map location).Nodup)
    (inside : ∀ node ∈ nodes, node.location ≠ []) : marked nodes = nodes := by
  rw [marked, distinct_eq_self different, List.filter_eq_self]
  intro node isNode
  simpa using inside node isNode

end Node

namespace Query

variable {q : Query} {document : Json}

theorem location_ne_nil_of_isSingle (inside : q.links ≠ []) (single : ∀ term ∈ q.links, term.IsSingle)
    {node : Node} (selected : node ∈ q.run document) : node.location ≠ [] := by
  have links : q.links = (⟨q.links.dropLast, ""⟩ : Query).links ++ [q.links.getLast inside] :=
    (List.dropLast_concat_getLast inside).symm
  rw [run_of_links links] at selected
  obtain ⟨container, _, picked⟩ := List.mem_flatMap.mp selected
  rcases single _ (List.getLast_mem inside) with isSelector | ⟨selector, isLast, isSelector⟩
  · obtain ⟨entry, _, rfl⟩ := Term.exists_entry_of_isSelector isSelector picked
    simp
  · rw [isLast, Term.visit_descendant] at picked
    obtain ⟨visited, _, picked⟩ := List.mem_flatMap.mp picked
    obtain ⟨entry, _, rfl⟩ := Term.exists_entry_of_isSelector isSelector picked
    simp

/-- What it means that a query finds nothing twice. -/
structure Distinct (q : Query) (document : Json) : Prop where
  locations : ((q.run document).map Node.location).Nodup
  paths : ((q.locate document).map Prod.fst).Nodup
  /-- All matches but the root are deleted, each as it is found. -/
  deleted : q.links ≠ [] → (q.delete document).1 = q.search document

theorem distinct_of_isSingle (single : ∀ term ∈ q.links, term.IsSingle)
    (once : q.links.countP Term.isDescendant ≤ 1) (sorted : document.Sorted) : q.Distinct document := by
  have locations : ((q.run document).map Node.location).Nodup := by
    have level : ∀ node ∈ [Node.root document], node.location.length = 0 := by simp
    have reached : ∀ node ∈ [Node.root document], node.Reached document := by
      intro node isRoot
      obtain rfl := List.mem_singleton.mp isRoot
      exact .root
    have found := Term.nodup_follow single sorted reached (by simp) (.inr ⟨once, 0, level⟩)
    rwa [List.flatMap_singleton] at found
  refine ⟨locations, ?_, ?_⟩
  · have paths : (q.locate document).map Prod.fst =
        ((q.run document).map Node.location).map Location.text := by
      rw [locate, List.map_map, List.map_map]
      rfl
    rw [paths]
    exact locations.map Location.text_injective
  · intro inside
    have marked := Node.marked_eq_self locations fun node selected =>
      location_ne_nil_of_isSingle inside single selected
    rw [delete_eq, marked]
    rfl

/-- The query reports every location but that of the root exactly once, and nothing before what it
    lies inside. -/
structure ReportsAll (q : Query) (document : Json) : Prop where
  locations : ((q.run document).map Node.location).Nodup
  complete : ∀ location, location ∈ (q.run document).map Node.location ↔
    location ≠ [] ∧ ∃ value, document.at? location = some value
  containersFirst : Node.ContainersFirst (q.run document)

theorem reportsAll_of_links (links : q.links = [.descendant (.ofTerm .wildcard)])
    (sorted : document.Sorted) : q.ReportsAll document := by
  have run : q.run document = (Node.root document).selfAndBelow.flatMap Node.children := by
    have one : q.links = (⟨[], ""⟩ : Query).links ++ [.descendant (.ofTerm .wildcard)] := links
    have root : (⟨[], ""⟩ : Query).run document = [.root document] := rfl
    rw [run_of_links one, root, List.flatMap_singleton, Term.visit_descendant]
    apply List.flatMap_congr
    intro node _
    exact List.flatMap_singleton' node.children
  have ordered := Node.Reached.containersFirst_below sorted .root
  rw [← run] at ordered
  refine ⟨ordered.nodup, ?_, ordered⟩
  intro location
  have nominal : ∀ term ∈ q.links, term.Nominal := by
    intro term isTerm
    rw [links] at isTerm
    obtain rfl := List.mem_singleton.mp isTerm
    exact .descendant .wildcard
  rw [mem_locations_iff nominal sorted, and_congr_left_iff, links]
  intro _
  constructor
  · intro admits isRoot
    subst isRoot
    exact admits.ne_nil (List.cons_ne_nil _ _) rfl
  · intro inside
    have steps : location.shape ≠ [] := by simpa [Location.shape] using inside
    have last : (Expr.ofTerm .wildcard).head.Admits [location.shape.getLast steps] := .wildcard _
    have admits := Term.ChainAdmits.cons (.descendant location.shape.dropLast last) .nil
    rwa [List.append_nil, List.dropLast_concat_getLast] at admits

/-- A query without unions and with at most one descendant segment finds nothing twice, whatever its
    filters look at, and deletes all that it finds. The query `$..*` reports everything inside the
    document once, each container before what lies inside it. -/
theorem matches_are_distinct {document : Json} (sorted : document.Sorted) :
    (∀ (source : String) (q : Query), compile source = .ok q →
      (∀ term ∈ q.links, term.isBranching = false) → q.links.countP Term.isDescendant ≤ 1 →
        q.Distinct document) ∧
      ∃ everything, compile "$..*" = .ok everything ∧ everything.ReportsAll document := by
  constructor
  · intro source q ok alone once
    have wf := q.wellFormed_iff.mp (wellFormed_of_compile ok)
    apply distinct_of_isSingle _ once sorted
    intro term isTerm
    exact Term.isSingle_of_isLink (wf term isTerm).1 (wf term isTerm).2 (alone term isTerm)
  · have compiled : compile "$..*" = .ok ⟨[.descendant (.ofTerm .wildcard)], "$..*"⟩ :=
      compile_eq_ok_iff.mpr ⟨_, by conv_lhs => cbv, rfl⟩
    exact ⟨_, compiled, reportsAll_of_links rfl sorted⟩

/-- The query `$[?@..['a', 0]]..[::-1]`, with a union in its filter only. -/
def reversedQuery : Query where
  links := [.filter (.chain .current [.descendant (.ofTerm
      (.child [.ofTerm (.name "a"), .ofTerm (.index 0)]))] false),
    .descendant (.ofTerm (.slice none none (some (-1))))]
  source := "$[?@..['a', 0]]..[::-1]"

/-- The document `{"p": [[0, 1], {"a": 2}], "q": [3], "r": {"b": []}}`. -/
def reversedDocument : Json :=
  .object [("p", .array [.array [.int 0, .int 1], .object [("a", .int 2)]]),
    ("q", .array [.int 3]), ("r", .object [("b", .array [])])]

theorem matches_are_distinct_reversed :
    reversedDocument.Sorted ∧ compile "$[?@..['a', 0]]..[::-1]" = .ok reversedQuery ∧
      reversedQuery.Distinct reversedDocument ∧
      (reversedQuery.locate reversedDocument).map Prod.fst =
        ["$['p'][1]", "$['p'][0]", "$['p'][0][1]", "$['p'][0][0]", "$['q'][0]"] ∧
      (reversedQuery.delete reversedDocument).1 =
        [.object [("a", .int 2)], .array [.int 0, .int 1], .int 1, .int 0, .int 3] := by
  have sorted : reversedDocument.Sorted := by
    have names : Json.NamesSorted [("p", Json.null), ("q", .null), ("r", .null)] := by decide
    simp only [reversedDocument, Json.Sorted, Json.SortedItems, Json.SortedMembers, Json.int, and_true]
    exact ⟨names, ⟨trivial, List.pairwise_singleton _ _⟩, trivial, List.pairwise_singleton _ _⟩
  have read : Token.ofQuery "$[?@..['a', 0]]..[::-1]" = .ok
      [⟨.root, "$", none, ⟨0, 1⟩⟩, ⟨.leftBracket, "[", none, ⟨1, 1⟩⟩,
        ⟨.question, "?", none, ⟨2, 1⟩⟩, ⟨.current, "@", none, ⟨3, 1⟩⟩,
        ⟨.doubleDot, "..", none, ⟨4, 2⟩⟩, ⟨.leftBracket, "[", none, ⟨6, 1⟩⟩,
        ⟨.string, "'a'", some (.text "a"), ⟨7, 3⟩⟩, ⟨.comma, ",", none, ⟨10, 1⟩⟩,
        ⟨.number, "0", some (.number (.int 0)), ⟨12, 1⟩⟩, ⟨.rightBracket, "]", none, ⟨13, 1⟩⟩,
        ⟨.rightBracket, "]", none, ⟨14, 1⟩⟩, ⟨.doubleDot, "..", none, ⟨15, 2⟩⟩,
        ⟨.leftBracket, "[", none, ⟨17, 1⟩⟩, ⟨.colon, ":", none, ⟨18, 1⟩⟩,
        ⟨.colon, ":", none, ⟨19, 1⟩⟩, ⟨.minus, "-", none, ⟨20, 1⟩⟩,
        ⟨.number, "1", some (.number (.int 1)), ⟨21, 1⟩⟩, ⟨.rightBracket, "]", none, ⟨22, 1⟩⟩,
        Token.endAt 23] := by decide +kernel
  have compiled : compile "$[?@..['a', 0]]..[::-1]" = .ok reversedQuery :=
    compile_eq_ok_iff.mpr ⟨_, read, rfl⟩
  have located : (reversedQuery.locate reversedDocument).map Prod.fst =
      ["$['p'][1]", "$['p'][0]", "$['p'][0][1]", "$['p'][0][0]", "$['q'][0]"] := by cbv
  have deleted : (reversedQuery.delete reversedDocument).1 =
      [.object [("a", .int 2)], .array [.int 0, .int 1], .int 1, .int 0, .int 3] := rfl
  have alone : ∀ term ∈ reversedQuery.links, term.isBranching = false := by
    simp [reversedQuery, Term.isBranching, Expr.ofTerm, Expr.head, Term.isUnion]
  have distinct := (matches_are_distinct sorted).1 _ reversedQuery compiled alone le_rfl
  exact ⟨sorted, compiled, distinct, located, deleted⟩

end Query

end JsonQuery

import JsonQuery.Proofs.PathQueries
import JsonQuery.Proofs.Removal

/-! # Deleting by shape

The shape of a location has the names on the way to it and gaps where the way goes through items. A
query of names and wildcards selects by the shape alone, so it cannot tell what has one shape apart.
What is left of a document had the same shape before, and would have been deleted as well if it were
of a shape that the query selects.
-/

namespace JsonQuery

/-! ## What is left -/

/-- The plan only takes values out. -/
def Plan.OnlyDrops (plan : Plan) : Prop := ∀ location new, plan location ≠ some (Edit.put new)

theorem Plan.OnlyDrops.under {plan : Plan} (drops : plan.OnlyDrops) (key : Key) :
    (plan.under key).OnlyDrops := fun location => drops (key :: location)

theorem Plan.onlyDrops_dropping (locations : List Location) : (Plan.dropping locations).OnlyDrops := by
  intro location new
  simp only [Plan.dropping]
  split <;> simp

/-- The name of a member; items have none. -/
def Key.name? : Key → Option String
  | .name member => some member
  | .index _ => none

namespace Json

variable {plan : Plan}

theorem edited_of_onlyDrops (drops : plan.OnlyDrops) (value : Json) :
    value.edited plan =
      match value with
      | .array items => .array (editedItems plan 0 items)
      | .object members => .object (editedMembers plan members)
      | scalar => scalar := by
  cases value <;> (unfold edited; split; next isPut => exact absurd isPut (drops [] _)) <;> rfl

theorem exists_of_getElem?_editedItems {first position : Nat} {items : List Json} {left : Json}
    (found : (editedItems plan first items)[position]? = some left) :
    ∃ original item, items[original]? = some item ∧
      plan.drops (.index (first + original)) = false ∧
      left = item.edited (plan.under (.index (first + original))) := by
  induction items generalizing first position with
  | nil => simp [editedItems] at found
  | cons item rest ih =>
      have later : ∀ {position : Nat}, (editedItems plan (first + 1) rest)[position]? = some left →
          ∃ original inner, (item :: rest)[original]? = some inner ∧
            plan.drops (.index (first + original)) = false ∧
            left = inner.edited (plan.under (.index (first + original))) := by
        intro position found
        obtain ⟨original, inner, isItem, kept, same⟩ := ih found
        rw [Nat.add_right_comm, Nat.add_assoc] at kept same
        exact ⟨original + 1, inner, isItem, kept, same⟩
      rw [editedItems] at found
      split at found
      · exact later found
      · next kept =>
          cases position with
          | zero => exact ⟨0, item, rfl, by simpa using kept, (Option.some.inj found).symm⟩
          | succ position => exact later found

theorem exists_of_lookup_editedMembers {members : List (String × Json)} {name : String} {left : Json}
    (found : lookup name (editedMembers plan members) = some left) :
    ∃ value, lookup name members = some value ∧ plan.drops (.name name) = false ∧
      left = value.edited (plan.under (.name name)) := by
  induction members with
  | nil => cases found
  | cons member rest ih =>
      obtain ⟨other, value⟩ := member
      rw [editedMembers] at found
      split at found
      · next dropped =>
          obtain ⟨inner, isMember, kept, same⟩ := ih found
          have different : other ≠ name := by
            rintro rfl
            rw [dropped] at kept
            cases kept
          exact ⟨inner, by rw [lookup, if_neg different, isMember], kept, same⟩
      · next kept =>
          rw [lookup] at found
          split at found
          · next same =>
              cases same
              exact ⟨value, by simp [lookup], by simpa using kept, (Option.some.inj found).symm⟩
          · next different =>
              obtain ⟨inner, isMember, kept, same⟩ := ih found
              exact ⟨inner, by rw [lookup, if_neg different, isMember], kept, same⟩

/-- What is left in a container lay in it before, under the same name or at some index. -/
theorem exists_of_child?_edited (drops : plan.OnlyDrops) {value left : Json} {key : Key}
    (found : (value.edited plan).child? key = some left) :
    ∃ original inner, value.child? original = some inner ∧ original.name? = key.name? ∧
      plan.drops original = false ∧ left = inner.edited (plan.under original) := by
  rw [edited_of_onlyDrops drops] at found
  cases value with
  | array items =>
      cases key with
      | name name => cases found
      | index position =>
          obtain ⟨original, item, isItem, kept, same⟩ := exists_of_getElem?_editedItems found
          rw [Nat.zero_add] at kept same
          exact ⟨.index original, item, isItem, rfl, kept, same⟩
  | object members =>
      cases key with
      | index position => cases found
      | name name =>
          obtain ⟨inner, isMember, kept, same⟩ := exists_of_lookup_editedMembers found
          exact ⟨.name name, inner, isMember, rfl, kept, same⟩
  | _ => cases key <;> cases found

theorem editedMembers_sublist (plan : Plan) (members : List (String × Json)) :
    ((editedMembers plan members).map Prod.fst).Sublist (members.map Prod.fst) := by
  induction members with
  | nil => exact List.Sublist.slnil
  | cons member rest ih =>
      obtain ⟨name, value⟩ := member
      rw [editedMembers]
      split
      · exact ih.cons name
      · exact ih.cons_cons name

theorem Sorted.edited {value : Json} (sorted : value.Sorted) (drops : plan.OnlyDrops) :
    (value.edited plan).Sorted := by
  induction size : sizeOf value using Nat.strong_induction_on generalizing value plan with
  | _ _ ih =>
      have inside : ∀ key left, (value.edited plan).child? key = some left → left.Sorted := by
        intro key left found
        obtain ⟨original, inner, isChild, _, _, rfl⟩ := exists_of_child?_edited drops found
        exact ih _ (size ▸ sizeOf_entries (mem_entries_of_child? isChild)) (sorted.child isChild)
          (drops.under original) rfl
      rw [edited_of_onlyDrops drops] at inside ⊢
      cases value with
      | array items =>
          apply (sortedItems_iff _).mpr
          intro item isItem
          obtain ⟨position, found⟩ := List.mem_iff_getElem?.mp isItem
          exact inside (.index position) item found
      | object members =>
          have names : NamesSorted (editedMembers plan members) :=
            sorted.1.sublist (editedMembers_sublist plan members)
          refine ⟨names, (sortedMembers_iff _).mpr ?_⟩
          intro member isMember
          exact inside (.name member.1) member.2 (lookup_of_mem names isMember)
      | _ => trivial

end Json

/-! ## Shapes -/

/-- The names on the way to a location, with gaps for the items. -/
def Location.shape (location : Location) : List (Option String) := location.map Key.name?

/-- Whatever is left was somewhere of the same shape, and was not taken out there. -/
theorem Json.exists_shape_of_edited {plan : Plan} (drops : plan.OnlyDrops) {value left : Json}
    {location : Location} (found : (value.edited plan).at? location = some left) :
    ∃ original inner, value.at? original = some inner ∧
      Location.shape original = location.shape ∧ (original ≠ [] → plan original ≠ some .drop) := by
  induction location generalizing value plan with
  | nil => exact ⟨[], value, rfl, rfl, fun nonempty => absurd rfl nonempty⟩
  | cons key rest ih =>
      rw [at?] at found
      split at found
      · next child isChild =>
          obtain ⟨original, inner, isInner, sameName, kept, rfl⟩ := exists_of_child?_edited drops isChild
          obtain ⟨others, last, isLast, sameShape, stays⟩ := ih (drops.under original) found
          refine ⟨original :: others, last, by simp [at?, isInner, isLast], ?_, fun _ dropped => ?_⟩
          · simp only [Location.shape, List.map_cons, sameName] at sameShape ⊢
            rw [sameShape]
          · cases others with
            | nil => simp [Plan.drops, dropped] at kept
            | cons next others => exact stays (List.cons_ne_nil _ _) dropped
      · cases found

/-! ## Queries of names and wildcards -/

namespace Term

/-- Names and wildcards, alone or in a union, for a node or for all nodes below. -/
inductive Nominal : Term → Prop where
  | name (name : String) : Nominal (.name name)
  | wildcard : Nominal .wildcard
  | child {selectors : List Expr} (all : ∀ selector ∈ selectors, selector.head.Nominal) :
      Nominal (.child selectors)
  | descendant {selector : Expr} (nominal : selector.head.Nominal) : Nominal (.descendant selector)

/-- The shapes of the ways that a term goes from a node. -/
inductive Admits : Term → List (Option String) → Prop where
  | name (name : String) : Admits (.name name) [some name]
  | wildcard (step : Option String) : Admits .wildcard [step]
  | child {selectors : List Expr} {selector : Expr} {shape : List (Option String)}
      (isHeld : selector ∈ selectors) (admits : selector.head.Admits shape) :
      Admits (.child selectors) shape
  | descendant {selector : Expr} {below : List (Option String)} (above : List (Option String))
      (admits : selector.head.Admits below) : Admits (.descendant selector) (above ++ below)

/-- The shapes of the ways that the terms of a chain go, one behind the other. -/
inductive ChainAdmits : List Term → List (Option String) → Prop where
  | nil : ChainAdmits [] []
  | cons {term : Term} {rest : List Term} {first others : List (Option String)}
      (admits : term.Admits first) (more : ChainAdmits rest others) :
      ChainAdmits (term :: rest) (first ++ others)

variable {document : Json} {term : Term} {links : List Term} {node : Node}

theorem Admits.ne_nil {shape : List (Option String)} (admits : term.Admits shape) : shape ≠ [] := by
  induction admits with
  | name | wildcard => simp
  | child _ _ ih => exact ih
  | descendant above _ ih => exact List.append_ne_nil_of_right_ne_nil above ih

theorem ChainAdmits.ne_nil {shape : List (Option String)} (admits : ChainAdmits links shape)
    (inside : links ≠ []) : shape ≠ [] := by
  cases admits with
  | nil => exact absurd rfl inside
  | cons first more => exact List.append_ne_nil_of_left_ne_nil first.ne_nil _

theorem Nominal.admits_of_visit (nominal : term.Nominal) {found : Node}
    (picked : found ∈ term.visit document (fun found => [found]) node) :
    ∃ keys, found.location = node.location ++ keys ∧ term.Admits (Location.shape keys) := by
  induction nominal generalizing node with
  | name name =>
      rw [visit, List.flatMap_singleton', Option.mem_toList, Node.member?] at picked
      split at picked
      · obtain ⟨value, _, rfl⟩ := Option.map_eq_some_iff.mp picked
        exact ⟨[.name name], node.location_child _ _, .name name⟩
      · cases picked
  | wildcard =>
      rw [visit, List.flatMap_singleton'] at picked
      obtain ⟨entry, _, rfl⟩ := Node.exists_entry picked
      exact ⟨[entry.1], node.location_child _ _, .wildcard _⟩
  | child _ ih =>
      rw [visit] at picked
      obtain ⟨selector, isHeld, picked⟩ := Expr.mem_visitAll.mp picked
      obtain ⟨keys, place, admits⟩ := ih selector isHeld picked
      exact ⟨keys, place, .child isHeld admits⟩
  | descendant _ ih =>
      rw [visit_descendant] at picked
      obtain ⟨visited, isVisited, picked⟩ := List.mem_flatMap.mp picked
      obtain ⟨above, isAbove⟩ := Node.prefix_of_mem_selfAndBelow isVisited
      obtain ⟨below, place, admits⟩ := ih picked
      refine ⟨above ++ below, by rw [place, ← isAbove, List.append_assoc], ?_⟩
      rw [Location.shape, List.map_append]
      exact .descendant _ admits

theorem Admits.exists_visit (document : Json) {shape : List (Option String)}
    (admits : term.Admits shape) {keys : Location} (sameShape : keys.shape = shape) {inner : Json}
    (inside : node.value.at? keys = some inner) :
    ∃ found ∈ term.visit document (fun found => [found]) node,
      found.location = node.location ++ keys ∧ found.value = inner := by
  induction admits generalizing node keys with
  | name name =>
      obtain ⟨key, rfl, isName⟩ := List.map_eq_singleton_iff.mp sameShape
      obtain rfl : key = .name name := by cases key <;> simp_all [Key.name?]
      rw [Json.at?_singleton] at inside
      have picked : (Term.name name).visit document (fun found => [found]) node =
          [node.child (.name name) inner] := Key.visit_term document inside _
      exact ⟨_, picked ▸ List.mem_singleton_self _, node.location_child _ _, rfl⟩
  | wildcard step =>
      obtain ⟨key, rfl, _⟩ := List.map_eq_singleton_iff.mp sameShape
      rw [Json.at?_singleton] at inside
      rw [visit, List.flatMap_singleton', node.children_eq]
      exact ⟨_, List.mem_map_of_mem (Json.mem_entries_of_child? inside), node.location_child _ _, rfl⟩
  | child isHeld _ ih =>
      obtain ⟨found, picked, same⟩ := ih sameShape inside
      exact ⟨found, by rw [visit]; exact Expr.mem_visitAll.mpr ⟨_, isHeld, picked⟩, same⟩
  | descendant _ _ ih =>
      obtain ⟨front, back, rfl, rfl, isBelow⟩ := List.map_eq_append_iff.mp sameShape
      rw [Json.at?_append] at inside
      obtain ⟨middle, isMiddle, isInner⟩ := Option.bind_eq_some_iff.mp inside
      obtain ⟨visited, isVisited, place, rfl⟩ := Node.exists_mem_selfAndBelow isMiddle
      obtain ⟨found, picked, ends, same⟩ := ih isBelow isInner
      refine ⟨found, ?_, by rw [ends, place, List.append_assoc], same⟩
      rw [visit_descendant]
      exact List.mem_flatMap_of_mem isVisited picked

theorem chainAdmits_of_follow (nominal : ∀ term ∈ links, term.Nominal) {found : Node}
    (selected : found ∈ follow document links node) :
    ∃ keys, found.location = node.location ++ keys ∧ ChainAdmits links (Location.shape keys) := by
  induction links generalizing node with
  | nil =>
      obtain rfl := List.mem_singleton.mp selected
      exact ⟨[], (List.append_nil _).symm, .nil⟩
  | cons term rest ih =>
      obtain ⟨nominalTerm, nominalRest⟩ := List.forall_mem_cons.mp nominal
      rw [follow, visit_eq_flatMap] at selected
      obtain ⟨picked, isPicked, selected⟩ := List.mem_flatMap.mp selected
      obtain ⟨first, place, admits⟩ := nominalTerm.admits_of_visit isPicked
      obtain ⟨others, ends, more⟩ := ih nominalRest selected
      refine ⟨first ++ others, by rw [ends, place, List.append_assoc], ?_⟩
      rw [Location.shape, List.map_append]
      exact .cons admits more

/-- A chain finds everything that lies on a way of one of its shapes. -/
theorem ChainAdmits.exists_follow (document : Json) {shape : List (Option String)}
    (admits : ChainAdmits links shape) {keys : Location} (sameShape : keys.shape = shape) {inner : Json}
    (inside : node.value.at? keys = some inner) :
    ∃ found ∈ follow document links node,
      found.location = node.location ++ keys ∧ found.value = inner := by
  induction admits generalizing node keys with
  | nil =>
      obtain rfl := List.map_eq_nil_iff.mp sameShape
      cases inside
      exact ⟨node, List.mem_singleton_self node, (List.append_nil _).symm, rfl⟩
  | cons first _ ih =>
      obtain ⟨front, back, rfl, isFront, isBack⟩ := List.map_eq_append_iff.mp sameShape
      rw [Json.at?_append] at inside
      obtain ⟨middle, isMiddle, isInner⟩ := Option.bind_eq_some_iff.mp inside
      obtain ⟨picked, isPicked, place, rfl⟩ := first.exists_visit document isFront isMiddle
      obtain ⟨found, selected, ends, same⟩ := ih isBack isInner
      refine ⟨found, ?_, by rw [ends, place, List.append_assoc], same⟩
      rw [follow, visit_eq_flatMap]
      exact List.mem_flatMap_of_mem isPicked selected

end Term

namespace Query

variable {q : Query} {document : Json}

theorem mem_locations_iff (nominal : ∀ term ∈ q.links, term.Nominal)
    (sorted : document.Sorted) {location : Location} :
    location ∈ (q.run document).map Node.location ↔
      Term.ChainAdmits q.links location.shape ∧ ∃ value, document.at? location = some value := by
  constructor
  · intro reported
    obtain ⟨node, selected, rfl⟩ := List.mem_map.mp reported
    obtain ⟨keys, place, admits⟩ := Term.chainAdmits_of_follow nominal selected
    rw [Node.location_root, List.nil_append] at place
    exact ⟨place ▸ admits, node.value, at?_location sorted selected⟩
  · intro ⟨admits, value, found⟩
    have inside : (Node.root document).value.at? location = some value := found
    obtain ⟨node, selected, place, _⟩ := admits.exists_follow document rfl inside
    exact List.mem_map.mpr ⟨node, selected, place⟩

/-- What a query of names and wildcards leaves when it deletes has no node for it. -/
theorem run_delete_eq_nil (inside : q.links ≠ []) (nominal : ∀ term ∈ q.links, term.Nominal)
    (sorted : document.Sorted) : q.run (q.delete document).2 = [] := by
  have drops := Plan.onlyDrops_dropping ((Node.marked (q.run document)).map Node.location)
  rw [q.delete_edited sorted]
  apply List.eq_nil_iff_forall_not_mem.mpr
  intro node selected
  -- A node that is left was somewhere of the same shape, so it was found there and taken out.
  have reported := List.mem_map_of_mem (f := Node.location) selected
  obtain ⟨admits, value, found⟩ := (mem_locations_iff nominal (sorted.edited drops)).mp reported
  obtain ⟨original, inner, isInner, sameShape, stays⟩ := Json.exists_shape_of_edited drops found
  rw [← sameShape] at admits
  have wasReported := (mem_locations_iff nominal sorted).mpr ⟨admits, inner, isInner⟩
  have nonempty : original ≠ [] := by
    intro isRoot
    subst isRoot
    exact admits.ne_nil inside rfl
  apply stays nonempty
  rw [Plan.dropping, if_pos]
  rw [Node.location_marked]
  exact List.mem_filter.mpr ⟨List.mem_eraseDups.mpr wasReported, by simpa using nonempty⟩

/-- After a query of names and wildcards has deleted, it finds nothing and deletes nothing. -/
theorem delete_leaves_none (inside : q.links ≠ []) (nominal : ∀ term ∈ q.links, term.Nominal)
    (sorted : document.Sorted) :
    q.search (q.delete document).2 = [] ∧
      q.delete (q.delete document).2 = ([], (q.delete document).2) := by
  have none := run_delete_eq_nil inside nominal sorted
  constructor
  · rw [search, none]
    rfl
  · rw [delete_eq, none]
    simp [Node.marked, Node.distinct, Location.descending, Json.removeAll]

/-- The query `$..['a', 'b']..*`, which finds some nodes twice, and some inside others. -/
def clearingQuery : Query where
  links := [.descendant (.ofTerm (.child [.ofTerm (.name "a"), .ofTerm (.name "b")])),
    .descendant (.ofTerm .wildcard)]
  source := "$..['a', 'b']..*"

/-- The document `{"a": [{"b": [0, 1]}, 2], "c": {"b": {"a": 3}, "d": 4}}`. -/
def clearedDocument : Json :=
  .object [("a", .array [.object [("b", .array [.int 0, .int 1])], .int 2]),
    ("c", .object [("b", .object [("a", .int 3)]), ("d", .int 4)])]

theorem delete_leaves_none_nested :
    compile "$..['a', 'b']..*" = .ok clearingQuery ∧ clearingQuery.links ≠ [] ∧
      (∀ term ∈ clearingQuery.links, term.Nominal) ∧ clearedDocument.Sorted ∧
      (clearingQuery.delete clearedDocument).2 =
        .object [("a", .array []), ("c", .object [("b", .object []), ("d", .int 4)])] ∧
      clearingQuery.search (clearingQuery.delete clearedDocument).2 = [] ∧
      clearingQuery.delete (clearingQuery.delete clearedDocument).2 =
        ([], (clearingQuery.delete clearedDocument).2) := by
  have compiled : compile "$..['a', 'b']..*" = .ok clearingQuery :=
    compile_eq_ok_iff.mpr ⟨_, by conv_lhs => cbv, rfl⟩
  have inside : clearingQuery.links ≠ [] := List.cons_ne_nil _ _
  have nominal : ∀ term ∈ clearingQuery.links, term.Nominal := by
    have names : (Term.child [.ofTerm (.name "a"), .ofTerm (.name "b")]).Nominal := by
      apply Term.Nominal.child
      intro selector isHeld
      obtain rfl | rfl : selector = .ofTerm (.name "a") ∨ selector = .ofTerm (.name "b") := by
        simpa using isHeld
      · exact .name "a"
      · exact .name "b"
    intro term isTerm
    rcases List.mem_pair.mp isTerm with rfl | rfl
    · exact .descendant names
    · exact .descendant .wildcard
  have sorted : clearedDocument.Sorted := by
    have outer : Json.NamesSorted [("a", Json.null), ("c", .null)] := by decide
    have inner : Json.NamesSorted [("b", Json.null), ("d", .null)] := by decide
    simp only [clearedDocument, Json.Sorted, Json.SortedItems, Json.SortedMembers, Json.int, and_true]
    exact ⟨outer, List.pairwise_singleton _ _, inner, List.pairwise_singleton _ _⟩
  have deleted : (clearingQuery.delete clearedDocument).2 =
      .object [("a", .array []), ("c", .object [("b", .object []), ("d", .int 4)])] := by
    rw [delete_edited sorted]
    rfl
  exact ⟨compiled, inside, nominal, sorted, deleted, delete_leaves_none inside nominal sorted⟩

end Query

end JsonQuery

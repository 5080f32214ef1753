import Mathlib.Tactic
import JsonQuery.Proofs.NodeLists
import JsonQuery.Proofs.SortedDocuments
import JsonQuery.Query.Change

/-! # Nodes lie where their locations say

A query finds the root of the document or what lies directly inside a node that is reached already.
By induction along these nodes the value, the container and the last key of every selected node are
those that the document has at its location. Objects must have each name once for that, which the
order of their members grants.
-/

namespace JsonQuery

namespace Json

theorem child?_of_mem_entries {value : Json} (sorted : value.Sorted) {entry : Key × Json}
    (member : entry ∈ value.entries) : value.child? entry.1 = some entry.2 := by
  cases value with
  | array items =>
      obtain ⟨⟨item, index⟩, isItem, rfl⟩ := List.mem_map.mp member
      exact List.mem_zipIdx_iff_getElem?.mp isItem
  | object members =>
      obtain ⟨⟨name, inner⟩, isMember, rfl⟩ := List.mem_map.mp member
      exact lookup_of_mem sorted.1 isMember
  | _ => cases member

theorem at?_singleton (value : Json) (key : Key) : value.at? [key] = value.child? key := by
  rw [at?]
  cases value.child? key <;> rfl

theorem mem_entries_of_child? {value inner : Json} {key : Key}
    (found : value.child? key = some inner) : (key, inner) ∈ value.entries := by
  cases value with
  | array items =>
      cases key with
      | index position =>
          exact List.mem_map.mpr ⟨(inner, position), List.mem_zipIdx_iff_getElem?.mpr found, rfl⟩
      | name name => cases found
  | object members =>
      cases key with
      | index position => cases found
      | name name => exact List.mem_map_of_mem (mem_of_lookup found)
  | _ => cases found

/-- Items have indices of their own, and members names of their own. -/
theorem Sorted.nodup_keys {value : Json} (sorted : value.Sorted) :
    (value.entries.map Prod.fst).Nodup := by
  cases value with
  | array items =>
      have keys : (Json.array items).entries.map Prod.fst =
          (items.zipIdx.map Prod.snd).map Key.index := by
        simp only [entries, List.map_map, Function.comp_def]
      rw [keys, List.zipIdx_map_snd]
      exact (List.nodup_range' ..).map fun a b same => Key.index.inj same
  | object members =>
      have keys : (Json.object members).entries.map Prod.fst =
          (members.map Prod.fst).map Key.name := by
        simp only [entries, List.map_map, Function.comp_def]
      have names : (members.map Prod.fst).Nodup := sorted.1.imp String.ne_of_lt
      rw [keys]
      exact names.map fun a b same => Key.name.inj same
  | _ => exact List.nodup_nil

end Json

/-! ## Selectors pick children -/

namespace Node

def among (node : Node) (entries : List (Key × Json)) : List Node :=
  entries.map fun (key, value) => node.child key value

theorem exists_member? (node : Node) (name : String) :
    ∃ entries, (node.member? name).toList = node.among entries ∧
      entries.Subperm node.value.entries := by
  cases isValue : node.value with
  | object members =>
      simp only [member?, isValue]
      cases found : Json.lookup name members with
      | none => exact ⟨[], rfl, List.nil_subperm⟩
      | some value =>
          refine ⟨[(.name name, value)], rfl, List.singleton_subperm_iff.mpr ?_⟩
          exact List.mem_map_of_mem (Json.mem_of_lookup found)
  | _ => exact ⟨[], by simp [member?, isValue, among], List.nil_subperm⟩

theorem exists_item? (node : Node) (index : Int) :
    ∃ entries, (node.item? index).toList = node.among entries ∧
      entries.Subperm node.value.entries := by
  cases isValue : node.value with
  | array items =>
      simp only [item?, isValue]
      cases normalizeIndex? items.length index with
      | none => exact ⟨[], rfl, List.nil_subperm⟩
      | some position =>
          cases found : items[position]? with
          | none => exact ⟨[], by simp [itemAt?, found, among], List.nil_subperm⟩
          | some item =>
              refine ⟨[(.index position, item)], by simp [itemAt?, found, among],
                List.singleton_subperm_iff.mpr ?_⟩
              exact List.mem_map.mpr ⟨(item, position), List.mem_zipIdx_iff_getElem?.mpr found, rfl⟩
  | _ => exact ⟨[], by simp [item?, isValue, among], List.nil_subperm⟩

theorem exists_slice (node : Node) (start stop step : Option Int) :
    ∃ entries, node.slice start stop step = node.among entries ∧
      entries.Subperm node.value.entries := by
  cases isValue : node.value with
  | array items =>
      refine ⟨(Slice.indices items.length start stop step).filterMap fun position =>
        items[position]?.map fun item => (Key.index position, item), ?_, ?_⟩
      · rw [slice, isValue, among, List.map_filterMap]
        apply List.filterMap_congr
        intro position _
        simp [itemAt?, Function.comp_def]
      · apply List.Nodup.subperm
        · apply (Slice.nodup_indices ..).filterMap
          intro a b entry inFirst inSecond
          obtain ⟨_, _, rfl⟩ := Option.map_eq_some_iff.mp inFirst
          obtain ⟨_, _, same⟩ := Option.map_eq_some_iff.mp inSecond
          exact (Key.index.inj (congrArg Prod.fst same)).symm
        · intro entry isEntry
          obtain ⟨position, _, found⟩ := List.mem_filterMap.mp isEntry
          obtain ⟨item, isItem, rfl⟩ := Option.map_eq_some_iff.mp found
          exact List.mem_map.mpr ⟨(item, position), List.mem_zipIdx_iff_getElem?.mpr isItem, rfl⟩
  | _ => exact ⟨[], by simp [slice, isValue, among], List.nil_subperm⟩

end Node

/-- A selector picks what lies directly inside a node, and nothing twice. -/
theorem Term.exists_entries (document : Json) {term : Term} (isSelector : term.isSelector = true)
    (node : Node) :
    ∃ entries, term.visit document (fun found => [found]) node = node.among entries ∧
      entries.Subperm node.value.entries := by
  cases term with
  | name name =>
      rw [Term.visit, List.flatMap_singleton']
      exact node.exists_member? name
  | index index =>
      rw [Term.visit, List.flatMap_singleton']
      exact node.exists_item? index
  | wildcard =>
      rw [Term.visit, List.flatMap_singleton']
      exact ⟨node.value.entries, node.children_eq, List.Subperm.refl _⟩
  | slice start stop step =>
      rw [Term.visit, List.flatMap_singleton']
      exact node.exists_slice start stop step
  | filter condition =>
      rw [Term.visit, List.flatMap_singleton', node.children_eq, List.filter_map]
      exact ⟨_, rfl, List.filter_sublist.subperm⟩
  | _ => cases isSelector

/-! ## Subtrees -/

namespace Node

theorem prefix_of_mem_selfAndBelow {node visited : Node} (isVisited : visited ∈ node.selfAndBelow) :
    node.location <+: visited.location := by
  induction size : sizeOf node.value using Nat.strong_induction_on generalizing node with
  | _ _ ih =>
      rw [selfAndBelow_eq] at isVisited
      rcases List.mem_cons.mp isVisited with rfl | inside
      · exact List.prefix_rfl
      · obtain ⟨child, isChild, isBelow⟩ := List.mem_flatMap.mp inside
        have further := ih _ (size ▸ sizeOf_children isChild) isBelow rfl
        obtain ⟨entry, _, rfl⟩ := exists_entry isChild
        rw [location_child] at further
        exact (List.prefix_append _ _).trans further

theorem exists_mem_selfAndBelow {node : Node} {keys : Location} {inner : Json}
    (found : node.value.at? keys = some inner) :
    ∃ visited ∈ node.selfAndBelow, visited.location = node.location ++ keys ∧
      visited.value = inner := by
  induction keys generalizing node with
  | nil =>
      cases found
      rw [selfAndBelow_eq]
      exact ⟨node, List.mem_cons_self, (List.append_nil _).symm, rfl⟩
  | cons key rest ih =>
      rw [Json.at?] at found
      split at found
      · next value isChild =>
          have inside : (node.child key value).value.at? rest = some inner := found
          obtain ⟨visited, isVisited, place, same⟩ := ih inside
          refine ⟨visited, ?_, by rw [place]; simp, same⟩
          rw [selfAndBelow_eq, children_eq]
          apply List.mem_cons_of_mem
          apply List.mem_flatMap_of_mem _ isVisited
          exact List.mem_map_of_mem (Json.mem_entries_of_child? isChild)
      · cases found

end Node

/-! ## Nodes that are reached -/

namespace Node

/-- The root of a document, and what lies directly inside a node that is reached. -/
inductive Reached (document : Json) : Node → Prop where
  | root : Reached document (.root document)
  | child {node : Node} {key : Key} {value : Json} (reached : Reached document node)
      (inside : (key, value) ∈ node.value.entries) : Reached document (node.child key value)

namespace Reached

variable {document : Json} {node : Node}

theorem among (reached : node.Reached document) {entries : List (Key × Json)}
    (inside : entries ⊆ node.value.entries) : ∀ child ∈ node.among entries, child.Reached document := by
  intro child isChild
  obtain ⟨entry, isEntry, rfl⟩ := List.mem_map.mp isChild
  exact reached.child (inside isEntry)

theorem children (reached : node.Reached document) :
    ∀ child ∈ node.children, child.Reached document := by
  intro child isChild
  obtain ⟨entry, isEntry, rfl⟩ := exists_entry isChild
  exact reached.child isEntry

theorem selfAndBelow (reached : node.Reached document) :
    ∀ visited ∈ node.selfAndBelow, visited.Reached document := by
  induction size : sizeOf node.value using Nat.strong_induction_on generalizing node with
  | _ _ ih =>
      intro visited isVisited
      rw [selfAndBelow_eq] at isVisited
      rcases List.mem_cons.mp isVisited with rfl | inside
      · exact reached
      · obtain ⟨child, isChild, isBelow⟩ := List.mem_flatMap.mp inside
        have smaller := size ▸ sizeOf_children isChild
        exact ih _ smaller (reached.children child isChild) rfl visited isBelow

end Reached

end Node

/-! ## Selected nodes -/

mutual
/-- Whatever is done with the nodes that a term picks is done with nodes that are reached. -/
theorem Term.reached_visit {document : Json} (term : Term) {next : Node → List Node}
    (reachedNext : ∀ node, node.Reached document → ∀ found ∈ next node, found.Reached document)
    {node : Node} (reached : node.Reached document) :
    ∀ found ∈ term.visit document next node, found.Reached document := by
  have through : ∀ nodes : List Node, (∀ picked ∈ nodes, picked.Reached document) →
      ∀ found ∈ nodes.flatMap next, found.Reached document := by
    intro nodes all found isFound
    obtain ⟨picked, isPicked, inNext⟩ := List.mem_flatMap.mp isFound
    exact reachedNext picked (all picked isPicked) found inNext
  have selected : term.isSelector = true →
      ∀ found ∈ term.visit document next node, found.Reached document := by
    intro isSelector
    obtain ⟨entries, picked, inside⟩ := term.exists_entries document isSelector node
    rw [term.visit_eq_flatMap, picked]
    exact through _ (reached.among inside.subset)
  cases term with
  | root => exact reachedNext _ .root
  | current => exact reachedNext node reached
  | name | index | wildcard | slice | filter => exact selected rfl
  | child selectors =>
      simp only [Term.visit]
      exact Expr.reached_visitAll selectors reachedNext reached
  | descendant selector =>
      apply through
      intro picked isPicked
      obtain ⟨visited, isVisited, isSelected⟩ := List.mem_flatMap.mp isPicked
      refine selector.reached_visit (fun found reachedFound last isLast => ?_)
        (reached.selfAndBelow visited isVisited) picked isSelected
      obtain rfl := List.mem_singleton.mp isLast
      exact reachedFound
  | _ =>
      intro found isFound
      cases isFound
termination_by sizeOf term

theorem Expr.reached_visit {document : Json} (selector : Expr) {next : Node → List Node}
    (reachedNext : ∀ node, node.Reached document → ∀ found ∈ next node, found.Reached document)
    {node : Node} (reached : node.Reached document) :
    ∀ found ∈ selector.visit document next node, found.Reached document := by
  cases selector with
  | chain head links grouped => exact head.reached_visit reachedNext reached
termination_by sizeOf selector

theorem Expr.reached_visitAll {document : Json} (selectors : List Expr) {next : Node → List Node}
    (reachedNext : ∀ node, node.Reached document → ∀ found ∈ next node, found.Reached document)
    {node : Node} (reached : node.Reached document) :
    ∀ found ∈ Expr.visitAll document selectors next node, found.Reached document := by
  intro found isFound
  cases selectors with
  | nil => cases isFound
  | cons selector rest =>
      rcases List.mem_append.mp isFound with first | others
      · exact selector.reached_visit reachedNext reached found first
      · exact Expr.reached_visitAll rest reachedNext reached found others
termination_by sizeOf selectors
end

theorem Term.reached_of_visit {document : Json} (term : Term) {node found : Node}
    (reached : node.Reached document)
    (picked : found ∈ term.visit document (fun found => [found]) node) : found.Reached document := by
  apply term.reached_visit _ reached found picked
  intro last reachedLast other isOther
  obtain rfl := List.mem_singleton.mp isOther
  exact reachedLast

theorem Term.reached_follow {document : Json} (links : List Term) {node : Node}
    (reached : node.Reached document) :
    ∀ found ∈ Term.follow document links node, found.Reached document := by
  induction links generalizing node with
  | nil =>
      intro found isFound
      obtain rfl := List.mem_singleton.mp isFound
      exact reached
  | cons term rest ih => exact term.reached_visit (fun _ => ih) reached

theorem Query.reached_run (q : Query) {document : Json} {node : Node}
    (selected : node ∈ q.run document) : node.Reached document :=
  Term.reached_follow q.links .root node selected

/-! ## Coherence -/

namespace Node

/-- What a node tells about itself is what the document has at its location. Only the root, whose
    location has no keys, has neither a key nor a container. -/
structure Coherent (document : Json) (node : Node) : Prop where
  value : document.at? node.location = some node.value
  key : node.key? = node.location.getLast?
  parent : node.location ≠ [] → node.parent = document.at? node.location.dropLast
  key_eq_none : node.key? = none ↔ node.location = []
  parent_eq_none : node.parent = none ↔ node.location = []

theorem Coherent.root (document : Json) : (root document).Coherent document where
  value := rfl
  key := rfl
  parent nonempty := absurd rfl nonempty
  key_eq_none := by simp [key?, location, Node.root]
  parent_eq_none := by simp [location, Node.root]

theorem Coherent.child {document : Json} (sorted : document.Sorted) {node : Node}
    (coherent : node.Coherent document) {key : Key} {value : Json}
    (inside : (key, value) ∈ node.value.entries) : (node.child key value).Coherent document where
  value := by
    have found := Json.child?_of_mem_entries (sorted.at coherent.value) inside
    rw [location_child, Json.at?_append, coherent.value, Option.bind_some, Json.at?, found]
    rfl
  key := by simp [key?, Node.child, location]
  parent _ := by
    rw [location_child, List.dropLast_concat, coherent.value]
    rfl
  key_eq_none := by simp [key?, Node.child, location]
  parent_eq_none := by simp [Node.child, location]

theorem Reached.coherent {document : Json} (sorted : document.Sorted) {node : Node}
    (reached : node.Reached document) : node.Coherent document := by
  induction reached with
  | root => exact .root document
  | child _ inside ih => exact ih.child sorted inside

end Node

theorem Query.at?_location {document : Json} (sorted : document.Sorted) {q : Query} {node : Node}
    (selected : node ∈ q.run document) : document.at? node.location = some node.value :=
  ((q.reached_run selected).coherent sorted).value

/-! ## Distinct locations -/

theorem eraseDups_filter {α : Type} [BEq α] [LawfulBEq α] (keep : α → Bool) (as : List α) :
    (as.filter keep).eraseDups = as.eraseDups.filter keep := by
  induction length : as.length using Nat.strong_induction_on generalizing as with
  | _ size ih =>
      cases as with
      | nil => rfl
      | cons a rest =>
          have shorter : (rest.filter fun b => !b == a).length < size := by
            have := List.length_filter_le (fun b => !b == a) rest
            simp only [List.length_cons] at length
            omega
          have inner := ih _ shorter _ rfl
          have swap : (rest.filter keep).filter (fun b => !b == a) =
              (rest.filter fun b => !b == a).filter keep := by
            rw [List.filter_filter, List.filter_filter]
            exact List.filter_congr fun b _ => Bool.and_comm _ _
          rw [List.eraseDups_cons, List.filter_cons, List.filter_cons]
          split
          · rw [List.eraseDups_cons, swap, inner]
          · next dropped =>
              have same : rest.filter keep = (rest.filter fun b => !b == a).filter keep := by
                rw [← swap]
                refine (List.filter_eq_self.mpr fun b isKept => ?_).symm
                have kept := (List.mem_filter.mp isKept).2
                rw [Bool.not_eq_true', beq_eq_false_iff_ne]
                rintro rfl
                exact dropped kept
              rw [same, inner]

theorem eraseDups_cons_eq {α : Type} [BEq α] [LawfulBEq α] (a : α) (as : List α) :
    (a :: as).eraseDups = a :: as.eraseDups.filter fun b => !b == a := by
  rw [List.eraseDups_cons, eraseDups_filter]

theorem nodup_eraseDups {α : Type} [BEq α] [LawfulBEq α] (as : List α) : as.eraseDups.Nodup := by
  induction as with
  | nil => exact List.nodup_nil
  | cons a rest ih =>
      rw [eraseDups_cons_eq]
      refine List.nodup_cons.mpr ⟨fun member => ?_, ih.filter _⟩
      have := (List.mem_filter.mp member).2
      simp at this

namespace Node

theorem location_distinct (nodes : List Node) :
    (distinct nodes).map location = (nodes.map location).eraseDups := by
  induction nodes with
  | nil => rfl
  | cons node rest ih =>
      rw [List.map_cons, eraseDups_cons_eq, ← ih, List.filter_map]
      rfl

theorem mem_of_mem_distinct {nodes : List Node} {node : Node} (member : node ∈ distinct nodes) :
    node ∈ nodes := by
  induction nodes with
  | nil => cases member
  | cons first rest ih =>
      rcases List.mem_cons.mp member with rfl | inRest
      · exact List.mem_cons_self
      · exact List.mem_cons_of_mem _ (ih (List.mem_of_mem_filter inRest))

end Node

end JsonQuery

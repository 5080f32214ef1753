import Mathlib.Tactic
import JsonQuery.Proofs.Editing

/-! # Removing the accepted nodes of a query

Nodes are removed one after the other, each by its location in the document as it was. In descending
order every location still leads to its node when its turn comes, and what remains is the document
with all of them left out at once.
-/

namespace JsonQuery

def Plan.dropping (locations : List Location) : Plan := fun location =>
  if location ∈ locations then some .drop else none

namespace Json

/-- Removals in descending order, after those of a plan that come before all of them. -/
theorem foldlM_removeAt? {document : Json} (sorted : document.Sorted) {locations : List Location}
    (descending : locations.Pairwise fun a b => Location.Before b a)
    (inside : ∀ location ∈ locations, location ≠ [] ∧ ∃ value, document.at? location = some value)
    {plan : Plan} (after : ∀ location ∈ locations, plan.After location) :
    locations.foldlM (fun rest location => removeAt? location rest) (document.edited plan) =
      some (document.edited fun location =>
        if location ∈ locations then some .drop else plan location) := by
  induction locations generalizing plan with
  | nil => simp
  | cons location rest ih =>
      obtain ⟨before, descendingRest⟩ := List.pairwise_cons.mp descending
      obtain ⟨nonempty, value, found⟩ := inside location List.mem_cons_self
      have removed := removeAt?_edited sorted nonempty found (after location List.mem_cons_self)
      have afterRest : ∀ other ∈ rest, (plan.set location .drop).After other := fun other isRest =>
        (after other (List.mem_cons_of_mem _ isRest)).set (before other isRest) .drop
      have more := ih descendingRest (fun other isRest => inside other (List.mem_cons_of_mem _ isRest))
        afterRest
      rw [List.foldlM_cons, removed, Option.bind_eq_bind, Option.bind_some, more]
      congr 2
      funext other
      by_cases same : other = location <;> simp [Plan.set, same]

/-- Removing locations in descending order takes out exactly what lies there, and every removal
    finds its target. -/
theorem foldlM_removeAt?_descending {document : Json} (sorted : document.Sorted)
    {locations : List Location} (different : locations.Nodup)
    (inside : ∀ location ∈ locations, location ≠ [] ∧ ∃ value, document.at? location = some value) :
    (Location.descending locations).foldlM (fun rest location => removeAt? location rest) document =
      some (document.edited (.dropping locations)) := by
  have perm := Location.descending_perm locations
  have removed := foldlM_removeAt? sorted (Location.pairwise_descending different)
    (fun location member => inside location (perm.mem_iff.mp member))
    (fun location _ => Plan.after_empty location)
  rw [edited_empty] at removed
  rw [removed]
  congr 2
  funext location
  simp [Plan.dropping, perm.mem_iff, Plan.empty]

theorem removeAll_of_foldlM {document result : Json} {locations : List Location}
    (found : locations.foldlM (fun rest location => removeAt? location rest) document = some result) :
    document.removeAll locations = result := by
  induction locations generalizing document with
  | nil =>
      cases found
      rfl
  | cons location rest ih =>
      rw [List.foldlM_cons] at found
      obtain ⟨next, removed, more⟩ := Option.bind_eq_some_iff.mp found
      have step : document.removeAll (location :: rest) = next.removeAll rest := by
        simp [removeAll, removed]
      rw [step]
      exact ih more

end Json

/-! ## Asking the caller -/

def Node.agreed (nodes : List Node) (answers : List Bool) : List Node :=
  ((nodes.zip answers).filter fun asked => asked.2).map Prod.fst

/-- The caller is asked once for every node, in order, and the nodes are accepted for which the
    answer is yes. -/
theorem Node.accepted_run {σ : Type} (ask : Node → StateM σ Bool) (nodes : List Node) (state : σ) :
    ∃ answers final, (nodes.mapM ask).run state = (answers, final) ∧
      (Node.accepted ask nodes).run state = (Node.agreed nodes answers, final) := by
  induction nodes generalizing state with
  | nil => exact ⟨[], state, rfl, rfl⟩
  | cons node rest ih =>
      cases asked : (ask node).run state with
      | mk answer next =>
      obtain ⟨answers, final, askedRest, accepted⟩ := ih next
      refine ⟨answer :: answers, final, ?_, ?_⟩
      · rw [List.mapM_cons, run_bind_eq asked, run_bind_eq askedRest]
        rfl
      · rw [Node.accepted, run_bind_eq asked, run_bind_eq accepted]
        cases answer <;> rfl

theorem Node.mem_of_mem_agreed {nodes : List Node} {answers : List Bool} {node : Node}
    (member : node ∈ Node.agreed nodes answers) : node ∈ nodes := by
  obtain ⟨⟨first, answer⟩, isAsked, rfl⟩ := List.mem_map.mp member
  exact (List.of_mem_zip (List.mem_of_mem_filter isAsked)).1

/-! ## Whole deletions -/

/-- The accepted nodes other than the root, each location once. -/
def Node.marked (accepted : List Node) : List Node :=
  (distinct accepted).filter fun node => !node.location.isEmpty

theorem Node.location_marked (accepted : List Node) :
    (marked accepted).map location = ((accepted.map location).eraseDups).filter (· ≠ []) := by
  rw [marked, ← location_distinct, List.filter_map]
  refine congrArg (List.map location) (List.filter_congr fun node _ => ?_)
  cases place : node.location <;> simp [place]

/-- The locations of the accepted nodes other than the root, each once, in the order in which they
    were first accepted. -/
def Query.removed (q : Query) (document : Json) (answers : List Bool) : List Location :=
  (((Node.agreed (q.run document) answers).map Node.location).eraseDups).filter (· ≠ [])

theorem Node.at?_marked {document : Json} {accepted : List Node}
    (found : ∀ node ∈ accepted, document.at? node.location = some node.value) :
    ((marked accepted).map value).map some = ((marked accepted).map location).map document.at? := by
  rw [List.map_map, List.map_map]
  apply List.map_congr_left
  intro node member
  exact (found node (mem_of_mem_distinct (List.mem_of_mem_filter member))).symm

theorem Query.at?_marked {document : Json} (sorted : document.Sorted) (q : Query)
    (answers : List Bool) :
    ((Node.marked (Node.agreed (q.run document) answers)).map Node.value).map some =
      (q.removed document answers).map document.at? := by
  rw [Query.removed, ← Node.location_marked]
  apply Node.at?_marked
  intro node accepted
  exact Query.at?_location sorted (Node.mem_of_mem_agreed accepted)

/-- What it means to remove what lies at some locations of a document. -/
structure Json.Removes (document : Json) (locations : List Location) (values : List Json)
    (result : Json) : Prop where
  /-- All of it is left out at once, whatever the order of the locations. -/
  atOnce : ∀ same : List Location, (∀ location, location ∈ same ↔ location ∈ locations) →
    result = document.edited (.dropping same)
  /-- The removals are made one after the other, and each finds its target. -/
  oneByOne : document.removeAll (Location.descending locations) = result ∧
    (Location.descending locations).foldlM (fun rest location => Json.removeAt? location rest)
      document = some result
  /-- The values are those of the original document, one for each location. -/
  originals : values.map some = locations.map document.at?
  /-- The root is not among the locations. -/
  root : [] ∉ locations
  /-- What lies neither at one of the locations nor below keeps its value, up to what is taken out
      inside it. -/
  kept : ∀ location value, document.at? location = some value →
    (∀ above, above <+: location → above ∉ locations) →
      result.at? ((Plan.dropping locations).relocate location) =
        some (value.edited ((Plan.dropping locations).below location))

theorem Plan.dropping_congr {locations same : List Location}
    (members : ∀ location, location ∈ same ↔ location ∈ locations) :
    Plan.dropping same = Plan.dropping locations := by
  funext location
  simp only [Plan.dropping, members location]

/-- Removing different locations that are all there, in descending order, does everything that
    removing them means. -/
theorem Json.removes_descending {document : Json} (sorted : document.Sorted)
    {locations : List Location} (different : locations.Nodup) {values : List Json}
    (root : [] ∉ locations) (originals : values.map some = locations.map document.at?) :
    document.Removes locations values
      (document.removeAll (Location.descending locations)) := by
  have present : ∀ location ∈ locations,
      location ≠ [] ∧ ∃ value, document.at? location = some value := by
    intro location member
    refine ⟨fun empty => root (empty ▸ member), ?_⟩
    have found : document.at? location ∈ values.map some := originals ▸ List.mem_map_of_mem member
    obtain ⟨value, _, isValue⟩ := List.mem_map.mp found
    exact ⟨value, isValue.symm⟩
  have folded := foldlM_removeAt?_descending sorted different present
  have removed := removeAll_of_foldlM folded
  refine ⟨?_, ⟨rfl, removed ▸ folded⟩, originals, root, ?_⟩
  · intro same members
    rw [removed, Plan.dropping_congr members]
  · intro location value found outside
    rw [removed]
    have untouched : ∀ above, above <+: location → Plan.dropping locations above = none :=
      fun above isAbove => if_neg (outside above isAbove)
    refine at?_relocate sorted found (fun above isAbove _ => untouched above isAbove) ?_
    simp [untouched location List.prefix_rfl]

/-- Deleting asks about every match once, in order and on the document as it was, and removes the
    accepted ones. -/
theorem Query.deleteIf_removes {σ : Type} (ask : Node → StateM σ Bool) (q : Query)
    (document : Json) (sorted : document.Sorted) (state : σ) :
    ∃ answers final values result,
      ((q.run document).mapM ask).run state = (answers, final) ∧
        (q.deleteIf ask document).run state = ((values, result), final) ∧
        document.Removes (q.removed document answers) values result := by
  obtain ⟨answers, final, asked, accepted⟩ := Node.accepted_run ask (q.run document) state
  have different : (q.removed document answers).Nodup := (nodup_eraseDups _).filter _
  have root : [] ∉ q.removed document answers := by
    intro member
    simpa using (List.mem_filter.mp member).2
  refine ⟨answers, final, _, _, asked, ?_,
    Json.removes_descending sorted different root (Query.at?_marked sorted q answers)⟩
  rw [Query.deleteIf, run_bind_eq accepted, Query.removed, ← Node.location_marked]
  rfl

/-! ## Deleting without asking -/

theorem Node.accepted_true (nodes : List Node) :
    (Node.accepted (fun _ => pure true) nodes : StateM Unit (List Node)) = pure nodes := by
  induction nodes with
  | nil => rfl
  | cons node rest ih =>
      rw [Node.accepted, ih]
      rfl

theorem Query.delete_eq (q : Query) (document : Json) :
    q.delete document =
      ((Node.marked (q.run document)).map Node.value,
        document.removeAll
          (Location.descending ((Node.marked (q.run document)).map Node.location))) := by
  rw [Query.delete, Query.deleteIf, Node.accepted_true]
  rfl

theorem Query.delete_edited {document : Json} (sorted : document.Sorted) (q : Query) :
    (q.delete document).2 =
      document.edited (.dropping ((Node.marked (q.run document)).map Node.location)) := by
  have locations := Node.location_marked (q.run document)
  have different : ((Node.marked (q.run document)).map Node.location).Nodup := by
    rw [locations]
    exact (nodup_eraseDups _).filter _
  have root : [] ∉ (Node.marked (q.run document)).map Node.location := by
    rw [locations]
    intro member
    simpa using (List.mem_filter.mp member).2
  have originals := Node.at?_marked fun node selected => Query.at?_location sorted (q := q) selected
  rw [q.delete_eq]
  exact (Json.removes_descending sorted different root originals).atOnce _ fun _ => Iff.rfl

/-- A query that finds some nodes twice, and some inside others. -/
def overlappingQuery : Query where
  links := [.descendant (.ofTerm (.child [.ofTerm .wildcard, .ofTerm (.index 1)]))]
  source := "$..[*, 1]"

/-- The document `{"a": [0, [1, 2], 3], "b": 4}`. -/
def nestedDocument : Json :=
  .object [("a", .array [.int 0, .array [.int 1, .int 2], .int 3]), ("b", .int 4)]

def acceptLater (_ : Node) : StateM Nat Bool := do
  let left ← get
  set (left - 1)
  return left == 0

theorem Query.deleteIf_removes_nested :
    (overlappingQuery.deleteIf acceptLater nestedDocument).run 3 =
        (([.array [.int 1, .int 2], .int 3, .int 1, .int 2],
          .object [("a", .array [.int 0]), ("b", .int 4)]), 0) ∧
      nestedDocument.Sorted ∧
      nestedDocument.Removes
        [[.name "a", .index 1], [.name "a", .index 2], [.name "a", .index 1, .index 0],
          [.name "a", .index 1, .index 1]]
        [.array [.int 1, .int 2], .int 3, .int 1, .int 2]
        (.object [("a", .array [.int 0]), ("b", .int 4)]) := by
  have sorted : nestedDocument.Sorted := by
    refine ⟨List.pairwise_pair.mpr ?_, ?_⟩
    · decide
    · simp [Json.Sorted, Json.SortedItems, Json.SortedMembers, Json.int]
  have marked : (overlappingQuery.deleteIf acceptLater nestedDocument).run 3 =
      (([.array [.int 1, .int 2], .int 3, .int 1, .int 2],
        nestedDocument.removeAll (Location.descending [[.name "a", .index 1], [.name "a", .index 2],
          [.name "a", .index 1, .index 0], [.name "a", .index 1, .index 1]])), 0) := rfl
  have order : Location.descending [[.name "a", .index 1], [.name "a", .index 2],
      [.name "a", .index 1, .index 0], [.name "a", .index 1, .index 1]] =
      [[.name "a", .index 2], [.name "a", .index 1, .index 1], [.name "a", .index 1, .index 0],
        [.name "a", .index 1]] := by cbv
  have deleted : (overlappingQuery.deleteIf acceptLater nestedDocument).run 3 =
      (([.array [.int 1, .int 2], .int 3, .int 1, .int 2],
        .object [("a", .array [.int 0]), ("b", .int 4)]), 0) := by
    rw [marked, order]
    rfl
  obtain ⟨answers, final, values, result, asked, run, removes⟩ :=
    Query.deleteIf_removes acceptLater overlappingQuery nestedDocument sorted 3
  have answered : ((overlappingQuery.run nestedDocument).mapM acceptLater).run 3 =
      ([false, false, false, true, true, true, true, true, true], 0) := rfl
  cases asked.symm.trans answered
  cases run.symm.trans deleted
  have locations : overlappingQuery.removed nestedDocument
      [false, false, false, true, true, true, true, true, true] =
      [[.name "a", .index 1], [.name "a", .index 2], [.name "a", .index 1, .index 0],
        [.name "a", .index 1, .index 1]] := by decide +kernel
  exact ⟨deleted, sorted, locations ▸ removes⟩

end JsonQuery

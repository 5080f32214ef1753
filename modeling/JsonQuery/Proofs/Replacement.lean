import Mathlib.Tactic
import JsonQuery.Proofs.Editing

/-! # Replacing the nodes of a query

Replacements are made one after the other in descending order. A location therefore still leads to
its node when its turn comes, all matches inside that node have been replaced by then, and no match
around it has.
-/

namespace JsonQuery

namespace Plan

/-- The plan that puts each value at its location, over the edits of another plan. -/
def extended (plan : Plan) (results : List (Location × Json)) : Plan := fun location =>
  match results.lookup location with
  | some value => some (.put value)
  | none => plan location

def putting (results : List (Location × Json)) : Plan := empty.extended results

theorem extended_eq {plan : Plan} {results : List (Location × Json)} {location : Location}
    (absent : location ∉ results.map Prod.fst) : plan.extended results location = plan location := by
  have unknown : results.lookup location = none := by
    refine List.lookup_eq_none_iff.mpr fun result member => ?_
    rw [bne_iff_ne]
    rintro rfl
    exact absent (List.mem_map_of_mem member)
  rw [extended, unknown]

/-- The first of several results for different locations may be put first. -/
theorem set_extended {plan : Plan} {location : Location} {results : List (Location × Json)}
    (absent : location ∉ results.map Prod.fst) (value : Json) :
    (plan.set location (.put value)).extended results = plan.extended ((location, value) :: results) := by
  funext other
  by_cases same : other = location
  · subst same
    rw [extended_eq absent]
    simp [set, extended]
  · have other : (other == location) = false := beq_eq_false_iff_ne.mpr same
    simp only [set, extended, List.lookup_cons, if_neg same, other]

/-- Results that come before all edits lie nowhere below their locations. -/
theorem below_eq_inside {plan : Plan} {location : Location} (after : plan.After location)
    {results : List (Location × Json)}
    (before : ∀ result ∈ results, result.1 = location ∨ Location.Before result.1 location) :
    plan.below location = ((plan.extended results).below location).inside := by
  funext below
  cases below with
  | nil =>
      simp only [inside, Plan.below, if_true, List.append_nil]
      by_contra edited
      exact (after location edited).ne rfl
  | cons key keys =>
      have later : Location.Before location (location ++ key :: keys) :=
        Location.before_append location (List.cons_ne_nil _ _)
      have absent : location ++ key :: keys ∉ results.map Prod.fst := by
        intro member
        obtain ⟨result, isResult, same⟩ := List.mem_map.mp member
        rcases before result isResult with here | earlier
        · exact later.ne (here.symm.trans same)
        · exact (later.trans (same ▸ earlier)).ne rfl
      simp only [inside, Plan.below, reduceCtorEq, if_false, extended_eq absent]

theorem putting_ne_drop (results : List (Location × Json)) (location : Location) :
    putting results location ≠ some .drop := by
  rw [putting, extended]
  split <;> simp [empty]

theorem putting_of_mem {results : List (Location × Json)} (different : (results.map Prod.fst).Nodup)
    {location : Location} {value : Json} (member : (location, value) ∈ results) :
    putting results location = some (.put value) := by
  have found : results.lookup location = some value := by
    induction results with
    | nil => cases member
    | cons result rest ih =>
        obtain ⟨absent, differentRest⟩ := List.nodup_cons.mp different
        rcases List.mem_cons.mp member with rfl | inRest
        · exact List.lookup_cons_self
        · have isOther : (location == result.1) = false := by
            refine beq_eq_false_iff_ne.mpr ?_
            intro same
            exact absent (List.mem_map.mpr ⟨_, inRest, same⟩)
          rw [List.lookup_cons, isOther]
          exact ih differentRest inRest
  rw [putting, extended, found]

theorem putting_eq_none {results : List (Location × Json)} {location : Location}
    (absent : location ∉ results.map Prod.fst) : putting results location = none :=
  extended_eq absent

end Plan

namespace Json

/-- Replacements in descending order, after the edits of a plan that come before all of them. Each
    call gets the value as the edits below it have left it. -/
theorem run_replaceAll {σ : Type} (change : Json → StateM σ Json) {document : Json}
    (sorted : document.Sorted) {locations : List Location}
    (descending : locations.Pairwise fun a b => Location.Before b a)
    (present : ∀ location ∈ locations, ∃ value, document.at? location = some value) {plan : Plan}
    (after : ∀ location ∈ locations, plan.After location) (state : σ) :
    ∃ (received returned : List Json) (final : σ), (received.mapM change).run state = (returned, final) ∧
      (replaceAll change locations (document.edited plan)).run state =
        ((locations.length, document.edited (plan.extended (locations.zip returned))), final) ∧
      returned.length = locations.length ∧
      received.map some = locations.map fun location => (document.at? location).map fun value =>
        value.edited ((plan.extended (locations.zip returned)).below location).inside := by
  induction locations generalizing plan state with
  | nil => exact ⟨[], [], state, rfl, rfl, rfl, rfl⟩
  | cons location rest ih =>
      obtain ⟨before, descendingRest⟩ := List.pairwise_cons.mp descending
      obtain ⟨value, found⟩ := present location List.mem_cons_self
      have afterHere := after location List.mem_cons_self
      have absent : ∀ returned : List Json, location ∉ (rest.zip returned).map Prod.fst := by
        intro returned member
        obtain ⟨result, isResult, same⟩ := List.mem_map.mp member
        exact (before location (same ▸ (List.of_mem_zip isResult).1)).ne rfl
      cases changed : (change (value.edited (plan.below location))).run state with
      | mk new next =>
      have afterRest : ∀ other ∈ rest, (plan.set location (.put new)).After other :=
        fun other isRest =>
          (after other (List.mem_cons_of_mem _ isRest)).set (before other isRest) (.put new)
      obtain ⟨received, returned, final, called, replaced, calls, originals⟩ :=
        ih descendingRest (fun other isRest => present other (List.mem_cons_of_mem _ isRest))
          afterRest next
      rw [Plan.set_extended (absent returned)] at replaced originals
      have settled : plan.below location =
          ((plan.extended ((location, new) :: rest.zip returned)).below location).inside := by
        refine Plan.below_eq_inside afterHere fun result isResult => ?_
        obtain ⟨other, value⟩ := result
        rcases List.mem_cons.mp isResult with same | inRest
        · exact .inl (congrArg Prod.fst same)
        · exact .inr (before other (List.of_mem_zip inRest).1)
      refine ⟨value.edited (plan.below location) :: received, new :: returned, final, ?_, ?_, ?_, ?_⟩
      · rw [List.mapM_cons, run_bind_eq changed, run_bind_eq called]
        rfl
      · have step := replaceAt?_edited sorted found afterHere new
        rw [replaceAll, at?_edited sorted found afterHere]
        simp only
        rw [run_bind_eq changed, step, Option.getD_some, run_bind_eq replaced]
        rfl
      · rw [List.length_cons, List.length_cons, calls]
      · rw [List.map_cons, List.map_cons, List.zip_cons_cons, originals, found, Option.map_some,
          ← settled]

theorem updateChild?_self {value inner : Json} (sorted : value.Sorted) {key : Key}
    (found : value.child? key = some inner) {change : Json → Option Json}
    (changed : change inner = some inner) : updateChild? change key value = some value := by
  cases value with
  | array items =>
      cases key with
      | name name => cases found
      | index index =>
          obtain ⟨before, after, rfl, rfl⟩ := exists_split_items found
          simp [updateChild?, updateItem?_append, changed]
  | object members =>
      cases key with
      | index index => cases found
      | name name =>
          obtain ⟨before, after, rfl, absent, _⟩ := exists_split_members sorted.1 found
          simp [updateChild?, updateMember?_append change absent, changed]
  | _ => cases found

theorem replaceAt?_self {value inner : Json} (sorted : value.Sorted) {location : Location}
    (found : value.at? location = some inner) : replaceAt? location inner value = some value := by
  rw [replaceAt?]
  induction location generalizing value with
  | nil => exact found.symm
  | cons key rest ih =>
      rw [at?] at found
      split at found
      · next child isChild =>
          rw [updateAt?_cons]
          exact updateChild?_self sorted isChild (ih (sorted.child isChild) found)
      · cases found

theorem run_replaceAll_same {σ : Type} {change : Json → StateM σ Json}
    (same : ∀ value state, ((change value).run state).1 = value) {document : Json}
    (sorted : document.Sorted) {locations : List Location}
    (present : ∀ location ∈ locations, ∃ value, document.at? location = some value) (state : σ) :
    ∃ final, (replaceAll change locations document).run state =
      ((locations.length, document), final) := by
  induction locations generalizing state with
  | nil => exact ⟨state, rfl⟩
  | cons location rest ih =>
      obtain ⟨value, found⟩ := present location List.mem_cons_self
      cases changed : (change value).run state with
      | mk new next =>
      obtain rfl : new = value := by rw [← same value state, changed]
      obtain ⟨final, replaced⟩ := ih (fun other isRest => present other (List.mem_cons_of_mem _ isRest)) next
      refine ⟨final, ?_⟩
      rw [replaceAll, found]
      simp only
      rw [run_bind_eq changed, replaceAt?_self sorted found, Option.getD_some, run_bind_eq replaced]
      rfl

end Json

/-! ## Whole replacements -/

/-- The locations of the selected nodes, each once, in descending order. -/
def Query.replaced (q : Query) (document : Json) : List Location :=
  Location.descending ((q.run document).map Node.location).eraseDups

/-- What it means to replace what lies at some locations of a document: a caller received some
    values one after the other and returned others. -/
structure Json.Rebuilds (document : Json) (locations : List Location)
    (received returned : List Json) (result : Json) : Prop where
  /-- The locations come in descending order, each once. -/
  descending : locations.Pairwise fun a b => Location.Before b a
  /-- There is one call for each location. -/
  calls : returned.length = locations.length
  /-- What a call receives is the value at its location with the matches inside replaced. -/
  originals : received.map some = locations.map fun location =>
    (document.at? location).map fun value =>
      value.edited ((Plan.putting (locations.zip returned)).below location).inside
  /-- The document is rebuilt with what was returned. -/
  atOnce : result = document.edited (.putting (locations.zip returned))
  /-- What is returned for a location that lies below no other stands there in the end. -/
  outermost : ∀ location value, (location, value) ∈ locations.zip returned →
    (∀ above, above <+: location → above ≠ location → above ∉ locations) →
      result.at? location = some value
  /-- What lies neither at one of the locations nor below is rebuilt with what was returned for the
      locations below. -/
  kept : ∀ location value, document.at? location = some value →
    (∀ above, above <+: location → above ∉ locations) →
      result.at? location =
        some (value.edited ((Plan.putting (locations.zip returned)).below location))
  /-- What lies neither at one of the locations nor above or below stays as it is. -/
  unchanged : ∀ location value, document.at? location = some value →
    (∀ matched ∈ locations, ¬matched <+: location ∧ ¬location <+: matched) →
      result.at? location = some value

/-- Carrying out all replacements at once does everything that rebuilding means. -/
theorem Json.rebuilds_edited {document : Json} (sorted : document.Sorted)
    {locations : List Location} (descending : locations.Pairwise fun a b => Location.Before b a)
    {received returned : List Json} (calls : returned.length = locations.length)
    (present : ∀ location ∈ locations, ∃ value, document.at? location = some value)
    (originals : received.map some = locations.map fun location =>
      (document.at? location).map fun value =>
        value.edited ((Plan.putting (locations.zip returned)).below location).inside) :
    document.Rebuilds locations received returned
      (document.edited (.putting (locations.zip returned))) := by
  have names : (locations.zip returned).map Prod.fst = locations := List.map_fst_zip calls.ge
  have untouched : ∀ location, location ∉ locations →
      Plan.putting (locations.zip returned) location = none := by
    intro location absent
    exact Plan.putting_eq_none (names.symm ▸ absent)
  have stays := Plan.putting_ne_drop (locations.zip returned)
  have kept : ∀ location value, document.at? location = some value →
      (∀ above, above <+: location → above ≠ location → above ∉ locations) →
        (document.edited (.putting (locations.zip returned))).at? location =
          some (value.edited ((Plan.putting (locations.zip returned)).below location)) := by
    intro location value found outside
    have moved := at?_relocate sorted found
      (fun above isAbove different => untouched above (outside above isAbove different))
      (stays location)
    rwa [Plan.relocate_eq_self stays] at moved
  refine ⟨descending, calls, originals, rfl, ?_, ?_, ?_⟩
  · intro location value member outside
    obtain ⟨old, found⟩ := present location (List.of_mem_zip member).1
    rw [kept location old found outside]
    have different : ((locations.zip returned).map Prod.fst).Nodup := by
      rw [names]
      exact descending.imp fun before => before.ne.symm
    have here : (Plan.putting (locations.zip returned)).below location [] = some (.put value) := by
      rw [Plan.below, List.append_nil, Plan.putting_of_mem different member]
    rw [edited.eq_def, here]
  · intro location value found outside
    exact kept location value found fun above isAbove _ => outside above isAbove
  · intro location value found apart
    rw [kept location value found fun above isAbove _ member => (apart above member).1 isAbove]
    have nothing : (Plan.putting (locations.zip returned)).below location = Plan.empty := by
      funext below
      exact untouched _ fun member => (apart _ member).2 (List.prefix_append location below)
    rw [nothing, edited_empty]

theorem Query.mem_replaced {q : Query} {document : Json} {location : Location} :
    location ∈ q.replaced document ↔ ∃ node ∈ q.run document, node.location = location := by
  rw [Query.replaced, (Location.descending_perm _).mem_iff, List.mem_eraseDups, List.mem_map]

/-- Replacing calls the caller once for every location that is selected, and rebuilds the document
    with what the caller returns. -/
theorem Query.replaceWith_rebuilds {σ : Type} (change : Json → StateM σ Json) (q : Query)
    (document : Json) (sorted : document.Sorted) (state : σ) :
    ∃ (received returned : List Json) (final : σ) (result : Json),
      (received.mapM change).run state = (returned, final) ∧
        (q.replaceWith change document).run state =
          (((q.replaced document).length, result), final) ∧
        (∀ location, location ∈ q.replaced document ↔
          ∃ node ∈ q.run document, node.location = location) ∧
        document.Rebuilds (q.replaced document) received returned result ∧
        ((∀ value state, ((change value).run state).1 = value) → result = document) := by
  have descending : (q.replaced document).Pairwise fun a b => Location.Before b a :=
    Location.pairwise_descending (nodup_eraseDups _)
  have present : ∀ location ∈ q.replaced document, ∃ value, document.at? location = some value := by
    intro location member
    obtain ⟨node, selected, rfl⟩ := Query.mem_replaced.mp member
    exact ⟨node.value, Query.at?_location sorted selected⟩
  obtain ⟨received, returned, final, called, replaced, calls, originals⟩ :=
    Json.run_replaceAll change sorted descending present
      (fun location _ => Plan.after_empty location) state
  rw [Json.edited_empty] at replaced
  have run : (q.replaceWith change document).run state =
      (((q.replaced document).length,
        document.edited (.putting ((q.replaced document).zip returned))), final) := by
    rw [Query.replaceWith, Node.location_distinct]
    exact replaced
  refine ⟨received, returned, final, _, called, run, fun _ => Query.mem_replaced,
    Json.rebuilds_edited sorted descending calls present originals, fun same => ?_⟩
  obtain ⟨final', unchanged⟩ := Json.run_replaceAll_same same sorted present state
  have agree := replaced.symm.trans unchanged
  exact congrArg (fun outcome => outcome.1.2) agree

/-- A query that finds first items twice, and some nodes inside others. -/
def everywhereQuery : Query where
  links := [.descendant (.ofTerm (.child [.ofTerm .wildcard, .ofTerm (.index 0)]))]
  source := "$..[*, 0]"

/-- The document `{"a": [1, [2]]}`. -/
def pairedDocument : Json := .object [("a", .array [.int 1, .array [.int 2]])]

def numbered (value : Json) : StateM Nat Json := do
  let call ← get
  set (call + 1)
  return .array [.int call, value]

/-- The document after all its nodes but the root were paired. -/
def renumberedDocument : Json :=
  .object [("a", .array [.int 3, .array [.array [.int 2, .int 1],
    .array [.int 1, .array [.array [.int 0, .int 2]]]]])]

theorem Query.replaceWith_rebuilds_paired :
    pairedDocument.Sorted ∧
      (everywhereQuery.replaceWith numbered pairedDocument).run 0 = ((4, renumberedDocument), 4) ∧
      (∃ received returned, (received.mapM numbered).run 0 = (returned, 4) ∧
        pairedDocument.Rebuilds
          [[.name "a", .index 1, .index 0], [.name "a", .index 1], [.name "a", .index 0], [.name "a"]]
          received returned renumberedDocument) ∧
      (everywhereQuery.replaceWith pure pairedDocument).run () = ((4, pairedDocument), ()) := by
  have sorted : pairedDocument.Sorted := by
    simp [pairedDocument, Json.Sorted, Json.SortedItems, Json.SortedMembers, Json.NamesSorted,
      Json.int]
  have locations : everywhereQuery.replaced pairedDocument =
      [[.name "a", .index 1, .index 0], [.name "a", .index 1], [.name "a", .index 0],
        [.name "a"]] := by cbv
  have renumbered : (everywhereQuery.replaceWith numbered pairedDocument).run 0 =
      ((4, renumberedDocument), 4) :=
    congrArg (fun order => (Json.replaceAll numbered order pairedDocument).run 0) locations
  obtain ⟨received, returned, final, result, called, run, _, rebuilds, _⟩ :=
    Query.replaceWith_rebuilds numbered everywhereQuery pairedDocument sorted 0
  obtain ⟨_, _, _, _, _, kept, _, _, unchanged⟩ :=
    Query.replaceWith_rebuilds pure everywhereQuery pairedDocument sorted ()
  rw [locations] at run rebuilds kept
  cases run.symm.trans renumbered
  rw [unchanged fun _ _ => rfl] at kept
  exact ⟨sorted, renumbered, ⟨received, returned, called, rebuilds⟩, kept⟩

end JsonQuery

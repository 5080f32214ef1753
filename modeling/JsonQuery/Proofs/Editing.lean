import Mathlib.Tactic
import JsonQuery.Proofs.LocationOrder
import JsonQuery.Proofs.Addresses

/-! # Editing a document at many places at once

A plan says what happens at which location of a document as it was. Carrying out a plan all at once
is compared with carrying out its parts one after the other on the changing document: they agree if
the locations come in descending order.
-/

namespace JsonQuery

/-- What happens to a value. -/
inductive Edit where
  /-- It is taken out of its container. -/
  | drop
  /-- Another value is put in its place. -/
  | put (value : Json)

/-- The edits of a document by location. Locations without an edit keep their place, and their
    values are edited inside. -/
abbrev Plan := Location → Option Edit

namespace Plan

def empty : Plan := fun _ => none

/-- The edits below a location, seen from there. -/
def below (plan : Plan) (location : Location) : Plan := fun rest => plan (location ++ rest)

def under (plan : Plan) (key : Key) : Plan := fun rest => plan (key :: rest)

def set (plan : Plan) (location : Location) (edit : Edit) : Plan := fun other =>
  if other = location then some edit else plan other

/-- The same edits, but none of the value itself. -/
def inside (plan : Plan) : Plan := fun location => if location = [] then none else plan location

/-- Whether the value at a key is taken out. -/
def drops (plan : Plan) (key : Key) : Bool :=
  match plan [key] with
  | some .drop => true
  | _ => false

end Plan

mutual
/-- The value after all edits of a plan. Nothing is taken out of the root. -/
def Json.edited (plan : Plan) (value : Json) : Json :=
  match plan [] with
  | some (.put new) => new
  | _ =>
      match value with
      | .array items => .array (Json.editedItems plan 0 items)
      | .object members => .object (Json.editedMembers plan members)
      | scalar => scalar
termination_by structural value

def Json.editedItems (plan : Plan) (index : Nat) (items : List Json) : List Json :=
  match items with
  | [] => []
  | item :: rest =>
      if plan.drops (.index index) then Json.editedItems plan (index + 1) rest
      else item.edited (plan.under (.index index)) :: Json.editedItems plan (index + 1) rest
termination_by structural items

def Json.editedMembers (plan : Plan) (members : List (String × Json)) : List (String × Json) :=
  match members with
  | [] => []
  | (name, value) :: rest =>
      if plan.drops (.name name) then Json.editedMembers plan rest
      else (name, value.edited (plan.under (.name name))) :: Json.editedMembers plan rest
termination_by structural members
end

namespace Json

/-! ## Containers taken apart -/

theorem editedItems_append (plan : Plan) (index : Nat) (first second : List Json) :
    editedItems plan index (first ++ second) =
      editedItems plan index first ++ editedItems plan (index + first.length) second := by
  induction first generalizing index with
  | nil => simp [editedItems]
  | cons item rest ih =>
      simp only [List.cons_append, editedItems, ih (index + 1), List.length_cons]
      rw [show index + 1 + rest.length = index + (rest.length + 1) by omega]
      split <;> rfl

theorem editedMembers_append (plan : Plan) (first second : List (String × Json)) :
    editedMembers plan (first ++ second) =
      editedMembers plan first ++ editedMembers plan second := by
  induction first with
  | nil => simp [editedMembers]
  | cons member rest ih =>
      obtain ⟨name, value⟩ := member
      simp only [List.cons_append, editedMembers, ih]
      split <;> rfl

theorem editedItems_congr {plan plan' : Plan} {index : Nat} {items : List Json}
    (same : ∀ position, index ≤ position → position < index + items.length →
      plan.under (.index position) = plan'.under (.index position)) :
    editedItems plan index items = editedItems plan' index items := by
  induction items generalizing index with
  | nil => rfl
  | cons item rest ih =>
      have first := same index le_rfl (by simp)
      have drops : plan.drops (.index index) = plan'.drops (.index index) := by
        have := congrFun first []
        simp only [Plan.under] at this
        simp only [Plan.drops, this]
      have more : editedItems plan (index + 1) rest = editedItems plan' (index + 1) rest :=
        ih fun position low high =>
          same position (by omega) (by simp only [List.length_cons]; omega)
      simp only [editedItems, first, drops, more]

theorem editedMembers_congr {plan plan' : Plan} {members : List (String × Json)}
    (same : ∀ member ∈ members, plan.under (.name member.1) = plan'.under (.name member.1)) :
    editedMembers plan members = editedMembers plan' members := by
  induction members with
  | nil => rfl
  | cons member rest ih =>
      obtain ⟨name, value⟩ := member
      have first : plan.under (.name name) = plan'.under (.name name) :=
        same (name, value) List.mem_cons_self
      have drops : plan.drops (.name name) = plan'.drops (.name name) := by
        have := congrFun first []
        simp only [Plan.under] at this
        simp only [Plan.drops, this]
      have more := ih fun other member => same other (List.mem_cons_of_mem _ member)
      simp only [editedMembers, first, drops, more]

theorem length_editedItems {plan : Plan} {index : Nat} {items : List Json}
    (kept : ∀ position, index ≤ position → position < index + items.length →
      plan.drops (.index position) = false) :
    (editedItems plan index items).length = items.length := by
  induction items generalizing index with
  | nil => rfl
  | cons item rest ih =>
      have first := kept index le_rfl (by simp)
      have more : (editedItems plan (index + 1) rest).length = rest.length :=
        ih fun position low high =>
          kept position (by omega) (by simp only [List.length_cons]; omega)
      simp only [editedItems, first, Bool.false_eq_true, if_false, List.length_cons, more]

theorem editedMembers_names {plan : Plan} {members : List (String × Json)} {name : String}
    (absent : ∀ member ∈ members, member.1 ≠ name) :
    ∀ member ∈ editedMembers plan members, member.1 ≠ name := by
  induction members with
  | nil =>
      intro member isMember
      cases isMember
  | cons first rest ih =>
      obtain ⟨other, value⟩ := first
      have more := ih fun member isMember => absent member (List.mem_cons_of_mem _ isMember)
      simp only [editedMembers]
      split
      · exact more
      · intro member isMember
        rcases List.mem_cons.mp isMember with rfl | inRest
        · exact absent (other, value) List.mem_cons_self
        · exact more member inRest

theorem exists_split_items {items : List Json} {index : Nat} {item : Json}
    (found : items[index]? = some item) :
    ∃ before after, items = before ++ item :: after ∧ before.length = index := by
  obtain ⟨small, rfl⟩ := List.getElem?_eq_some_iff.mp found
  refine ⟨items.take index, items.drop (index + 1), ?_, ?_⟩
  · rw [List.getElem_cons_drop, List.take_append_drop]
  · simp only [List.length_take]
    omega

theorem exists_split_members {members : List (String × Json)} (sorted : NamesSorted members)
    {name : String} {value : Json} (found : lookup name members = some value) :
    ∃ before after, members = before ++ (name, value) :: after ∧
      (∀ member ∈ before, member.1 ≠ name) ∧ ∀ member ∈ after, member.1 ≠ name := by
  obtain ⟨before, after, rfl⟩ := List.append_of_mem (mem_of_lookup found)
  refine ⟨before, after, rfl, ?_, ?_⟩
  · intro member isMember same
    simp only [NamesSorted, List.map_append, List.map_cons, List.pairwise_append] at sorted
    have less := sorted.2.2 member.1 (List.mem_map_of_mem isMember) name List.mem_cons_self
    exact String.lt_irrefl name (same ▸ less)
  · intro member isMember same
    simp only [NamesSorted, List.map_append, List.map_cons, List.pairwise_append,
      List.pairwise_cons] at sorted
    have less := sorted.2.1.1 member.1 (List.mem_map_of_mem isMember)
    exact String.lt_irrefl name (same ▸ less)

theorem updateItem?_append (change : Json → Option Json) (before after : List Json) (item : Json) :
    updateItem? change before.length (before ++ item :: after) =
      (change item).map fun new => before ++ new :: after := by
  induction before with
  | nil => rfl
  | cons first rest ih =>
      simp only [List.cons_append, List.length_cons, updateItem?, ih, Option.map_map]
      rfl

theorem updateMember?_append (change : Json → Option Json) {before : List (String × Json)}
    {name : String} (absent : ∀ member ∈ before, member.1 ≠ name) (value : Json)
    (after : List (String × Json)) :
    updateMember? name change (before ++ (name, value) :: after) =
      (change value).map fun new => before ++ (name, new) :: after := by
  induction before with
  | nil => simp [updateMember?]
  | cons first rest ih =>
      obtain ⟨other, old⟩ := first
      have different : other ≠ name := absent (other, old) List.mem_cons_self
      have more := ih fun member isMember => absent member (List.mem_cons_of_mem _ isMember)
      simp only [List.cons_append, updateMember?, if_neg different, more, Option.map_map]
      rfl

theorem lookup_append {before : List (String × Json)} {name : String}
    (absent : ∀ member ∈ before, member.1 ≠ name) (value : Json) (after : List (String × Json)) :
    lookup name (before ++ (name, value) :: after) = some value := by
  induction before with
  | nil => simp [lookup]
  | cons first rest ih =>
      obtain ⟨other, old⟩ := first
      have different : other ≠ name := absent (other, old) List.mem_cons_self
      rw [List.cons_append, lookup, if_neg different]
      exact ih fun member isMember => absent member (List.mem_cons_of_mem _ isMember)

theorem filter_name_append {before after : List (String × Json)} {name : String}
    (absentBefore : ∀ member ∈ before, member.1 ≠ name)
    (absentAfter : ∀ member ∈ after, member.1 ≠ name) (value : Json) :
    (before ++ (name, value) :: after).filter (fun member => member.1 != name) = before ++ after := by
  have keep : ∀ {members : List (String × Json)}, (∀ member ∈ members, member.1 ≠ name) →
      members.filter (fun member => member.1 != name) = members := fun absent =>
    List.filter_eq_self.mpr fun member isMember => by simpa using absent member isMember
  rw [List.filter_append, List.filter_cons_of_neg (by simp), keep absentBefore, keep absentAfter]

def updateChild? (change : Json → Option Json) (key : Key) (value : Json) : Option Json :=
  match key, value with
  | .name name, .object members => (updateMember? name change members).map .object
  | .index index, .array items => (updateItem? change index items).map .array
  | _, _ => none

theorem updateAt?_cons (change : Json → Option Json) (key : Key) (rest : Location) (value : Json) :
    updateAt? change (key :: rest) value = updateChild? (updateAt? change rest) key value := by
  cases key <;> cases value <;> rfl

theorem removeAt?_cons (key next : Key) (rest : Location) (value : Json) :
    removeAt? (key :: next :: rest) value = updateChild? (removeAt? (next :: rest)) key value := by
  have same : removeAt? (next :: rest) =
      updateAt? (removeChild? ((next :: rest).getLast (List.cons_ne_nil _ _)))
        (next :: rest).dropLast := by
    funext inner
    rw [removeAt?, List.getLast?_eq_getLast_of_ne_nil (List.cons_ne_nil _ _)]
  rw [same, ← updateAt?_cons, removeAt?, List.getLast?_eq_getLast_of_ne_nil (List.cons_ne_nil _ _),
    List.getLast_cons (List.cons_ne_nil _ _)]
  rfl

/-! ## One key -/

end Json

namespace Plan

/-- The value at the key stays in its place: neither it nor an item before it is taken out, and the
    container is not replaced. -/
structure Keeps (plan : Plan) (key : Key) : Prop where
  container : plan [] = none
  value : plan.drops key = false
  before : ∀ index, key = .index index → ∀ position < index, plan.drops (.index position) = false

/-- The plans differ at most at the key and below it. -/
structure AgreesOff (plan plan' : Plan) (key : Key) : Prop where
  container : plan [] = plan' []
  others : ∀ other, other ≠ key → plan.under other = plan'.under other

end Plan

namespace Json

theorem edited_array {plan : Plan} (container : plan [] = none) (items : List Json) :
    (array items).edited plan = .array (editedItems plan 0 items) := by
  rw [edited, container]

theorem edited_object {plan : Plan} (container : plan [] = none)
    (members : List (String × Json)) :
    (object members).edited plan = .object (editedMembers plan members) := by
  rw [edited, container]

theorem editedItems_around (plan : Plan) (before after : List Json) (item : Json) :
    editedItems plan 0 (before ++ item :: after) =
      editedItems plan 0 before ++
        ((if plan.drops (.index before.length) then []
          else [item.edited (plan.under (.index before.length))]) ++
        editedItems plan (before.length + 1) after) := by
  rw [editedItems_append, editedItems, Nat.zero_add]
  split <;> rfl

theorem editedMembers_around (plan : Plan) (before after : List (String × Json)) (name : String)
    (value : Json) :
    editedMembers plan (before ++ (name, value) :: after) =
      editedMembers plan before ++
        ((if plan.drops (.name name) then [] else [(name, value.edited (plan.under (.name name)))]) ++
        editedMembers plan after) := by
  rw [editedMembers_append, editedMembers]
  split <;> rfl

/-- What the edits of a plan make of a container, seen from a key that keeps its place. -/
theorem exists_container {value inner : Json} (sorted : value.Sorted) {key : Key}
    (found : value.child? key = some inner) {plan : Plan} (keeps : plan.Keeps key) :
    (∃ index before after, key = .index index ∧ before.length = index ∧
      ∀ plan', plan.AgreesOff plan' key → value.edited plan' =
        .array (before ++ ((if plan'.drops key then [] else [inner.edited (plan'.under key)]) ++ after))) ∨
    ∃ name before after, key = .name name ∧ (∀ member ∈ before, member.1 ≠ name) ∧
      (∀ member ∈ after, member.1 ≠ name) ∧
      ∀ plan', plan.AgreesOff plan' key → value.edited plan' =
        .object (before ++
          ((if plan'.drops key then [] else [(name, inner.edited (plan'.under key))]) ++ after)) := by
  cases value with
  | array items =>
      cases key with
      | name name => cases found
      | index index =>
          obtain ⟨before, after, rfl, rfl⟩ := exists_split_items found
          refine .inl ⟨before.length, editedItems plan 0 before, editedItems plan (before.length + 1) after,
            rfl, length_editedItems fun position _ small =>
              keeps.before _ rfl position (by omega), fun plan' agrees => ?_⟩
          have first : editedItems plan' 0 before = editedItems plan 0 before :=
            editedItems_congr fun position _ small => (agrees.others _ (by
              simp only [ne_eq, Key.index.injEq]
              omega)).symm
          have last : editedItems plan' (before.length + 1) after =
              editedItems plan (before.length + 1) after :=
            editedItems_congr fun position low _ => (agrees.others _ (by
              simp only [ne_eq, Key.index.injEq]
              omega)).symm
          rw [edited_array (agrees.container.symm.trans keeps.container), editedItems_around, first, last]
  | object members =>
      cases key with
      | index index => cases found
      | name name =>
          obtain ⟨before, after, rfl, absentBefore, absentAfter⟩ := exists_split_members sorted.1 found
          refine .inr ⟨name, editedMembers plan before, editedMembers plan after, rfl,
            editedMembers_names absentBefore, editedMembers_names absentAfter, fun plan' agrees => ?_⟩
          have first : editedMembers plan' before = editedMembers plan before :=
            editedMembers_congr fun member isMember => (agrees.others _ (by
              simpa using absentBefore member isMember)).symm
          have last : editedMembers plan' after = editedMembers plan after :=
            editedMembers_congr fun member isMember => (agrees.others _ (by
              simpa using absentAfter member isMember)).symm
          rw [edited_object (agrees.container.symm.trans keeps.container), editedMembers_around, first, last]
  | _ => cases found

variable {value inner : Json} {key : Key} {plan plan' : Plan}

theorem child?_edited (sorted : value.Sorted) (found : value.child? key = some inner)
    (keeps : plan.Keeps key) :
    (value.edited plan).child? key = some (inner.edited (plan.under key)) := by
  have agrees : plan.AgreesOff plan key := ⟨rfl, fun _ _ => rfl⟩
  rcases exists_container sorted found keeps with
    ⟨index, before, after, rfl, rfl, around⟩ | ⟨name, before, after, rfl, absent, _, around⟩
  · rw [around plan agrees, keeps.value]
    simp [child?]
  · rw [around plan agrees, keeps.value]
    exact lookup_append absent _ _

/-- Changing the edited value at a key carries out one plan more, if the change does there. -/
theorem updateChild?_edited (sorted : value.Sorted) (found : value.child? key = some inner)
    (keeps : plan.Keeps key) (agrees : plan.AgreesOff plan' key) (keeps' : plan'.drops key = false)
    {change : Json → Option Json}
    (changed : change (inner.edited (plan.under key)) = some (inner.edited (plan'.under key))) :
    updateChild? change key (value.edited plan) = some (value.edited plan') := by
  have same : plan.AgreesOff plan key := ⟨rfl, fun _ _ => rfl⟩
  rcases exists_container sorted found keeps with
    ⟨index, before, after, rfl, rfl, around⟩ | ⟨name, before, after, rfl, absent, _, around⟩
  · rw [around plan same, around plan' agrees, keeps.value, keeps']
    simp [updateChild?, updateItem?_append, changed]
  · rw [around plan same, around plan' agrees, keeps.value, keeps']
    simp [updateChild?, updateMember?_append change absent, changed]

/-- Taking the edited value at a key out carries out the plan that takes it out. -/
theorem removeChild?_edited (sorted : value.Sorted) (found : value.child? key = some inner)
    (keeps : plan.Keeps key) (agrees : plan.AgreesOff plan' key) (drops : plan'.drops key = true) :
    removeChild? key (value.edited plan) = some (value.edited plan') := by
  have same : plan.AgreesOff plan key := ⟨rfl, fun _ _ => rfl⟩
  rcases exists_container sorted found keeps with
    ⟨index, before, after, rfl, rfl, around⟩ | ⟨name, before, after, rfl, absent, absent', around⟩
  · rw [around plan same, around plan' agrees, keeps.value, drops]
    simp [removeChild?, List.eraseIdx_append_of_length_le]
  · rw [around plan same, around plan' agrees, keeps.value, drops]
    have isMember := lookup_append absent (inner.edited (plan.under (.name name))) after
    have rest := filter_name_append absent absent' (inner.edited (plan.under (.name name)))
    simp [removeChild?, isMember, rest]

end Json

/-! ## One location -/

namespace Plan

/-- All edits come after a location. -/
def After (plan : Plan) (location : Location) : Prop :=
  ∀ other, plan other ≠ none → location.Before other

variable {plan : Plan} {key : Key} {rest : Location}

theorem after_empty (location : Location) : empty.After location :=
  fun _ edited => absurd rfl edited

theorem After.root (after : plan.After (key :: rest)) : plan [] = none := by
  by_contra edited
  exact Location.not_before_nil _ (after [] edited)

theorem After.under (after : plan.After (key :: rest)) : (plan.under key).After rest := by
  intro other edited
  rcases Location.before_cons.mp (after (key :: other) edited) with less | ⟨_, before⟩
  · exact absurd (Std.ReflCmp.compare_self.symm.trans less) (by decide)
  · exact before

theorem drops_eq_false {plan : Plan} {key : Key} (untouched : plan [key] = none) :
    plan.drops key = false := by
  rw [drops, untouched]

theorem After.set {location earlier : Location} (after : plan.After earlier)
    (before : earlier.Before location) (edit : Edit) : (plan.set location edit).After earlier := by
  intro other edited
  by_cases same : other = location
  · exact same ▸ before
  · refine after other ?_
    simpa [Plan.set, same] using edited

/-- Edits that come after a location leave all keys on the way there in their places. -/
theorem After.keeps (after : plan.After (key :: rest)) : plan.Keeps key where
  container := after.root
  value := by
    refine drops_eq_false ?_
    by_contra edited
    exact Location.not_before_nil rest (after.under [] edited)
  before index isIndex position small := by
    refine drops_eq_false ?_
    by_contra edited
    subst isIndex
    rcases Location.before_cons.mp (after [.index position] edited) with less | ⟨same, _⟩
    · have : index < position := Nat.compare_eq_lt.mp less
      omega
    · cases same
      omega

theorem set_under (plan : Plan) (key : Key) (rest : Location) (edit : Edit) :
    (plan.set (key :: rest) edit).under key = (plan.under key).set rest edit := by
  funext other
  simp [under, set]

theorem agreesOff_set (plan : Plan) (key : Key) (rest : Location) (edit : Edit) :
    plan.AgreesOff (plan.set (key :: rest) edit) key where
  container := by simp [set]
  others other different := by
    funext below
    simp [under, set, different]

end Plan

namespace Json

/-- The value at a location that all edits come after has been edited inside only. -/
theorem at?_edited {value inner : Json} (sorted : value.Sorted) {location : Location}
    (found : value.at? location = some inner) {plan : Plan} (after : plan.After location) :
    (value.edited plan).at? location = some (inner.edited (plan.below location)) := by
  induction location generalizing value plan with
  | nil =>
      cases found
      rfl
  | cons key rest ih =>
      rw [at?] at found
      split at found
      · next child isChild =>
          rw [at?, child?_edited sorted isChild after.keeps]
          exact ih (sorted.child isChild) found after.under
      · cases found

theorem replaceAt?_edited {value inner : Json} (sorted : value.Sorted) {location : Location}
    (found : value.at? location = some inner) {plan : Plan} (after : plan.After location)
    (new : Json) :
    replaceAt? location new (value.edited plan) =
      some (value.edited (plan.set location (.put new))) := by
  rw [replaceAt?]
  induction location generalizing value plan with
  | nil =>
      rw [updateAt?, edited.eq_def (plan.set [] (.put new))]
      simp [Plan.set]
  | cons key rest ih =>
      rw [at?] at found
      split at found
      · next child isChild =>
          have step := ih (sorted.child isChild) found after.under
          rw [← Plan.set_under] at step
          rw [updateAt?_cons]
          refine updateChild?_edited sorted isChild after.keeps (plan.agreesOff_set key rest _) ?_ step
          cases rest with
          | nil => simp [Plan.drops, Plan.set]
          | cons next rest =>
              have := after.keeps.value
              simpa [Plan.drops, Plan.set] using this
      · cases found

/-- Taking out the value at a location that all edits come after is one edit more. -/
theorem removeAt?_edited {value inner : Json} (sorted : value.Sorted) {location : Location}
    (nonempty : location ≠ []) (found : value.at? location = some inner) {plan : Plan}
    (after : plan.After location) :
    removeAt? location (value.edited plan) = some (value.edited (plan.set location .drop)) := by
  induction location generalizing value plan with
  | nil => exact absurd rfl nonempty
  | cons key rest ih =>
      rw [at?] at found
      split at found
      · next child isChild =>
          cases rest with
          | nil =>
              have direct : removeAt? [key] (value.edited plan) = removeChild? key (value.edited plan) := rfl
              rw [direct]
              exact removeChild?_edited sorted isChild after.keeps (plan.agreesOff_set key [] _)
                (by simp [Plan.drops, Plan.set])
          | cons next rest =>
              have step := ih (sorted.child isChild) (List.cons_ne_nil _ _) found after.under
              rw [← Plan.set_under] at step
              rw [removeAt?_cons]
              refine updateChild?_edited sorted isChild after.keeps
                (plan.agreesOff_set key (next :: rest) _) ?_ step
              have := after.keeps.value
              simpa [Plan.drops, Plan.set] using this
      · cases found

end Json

/-! ## Values that stay -/

namespace Plan

/-- Where the value at a location is found after the edits of a plan: items move to the front by the
    number of those before them that are taken out. -/
def relocate (plan : Plan) : Location → Location
  | [] => []
  | .name name :: rest => .name name :: (plan.under (.name name)).relocate rest
  | .index index :: rest =>
      .index ((List.range index).countP fun position => !plan.drops (.index position)) ::
        (plan.under (.index index)).relocate rest

theorem drops_eq_false_of_ne {plan : Plan} {key : Key} (stays : plan [key] ≠ some .drop) :
    plan.drops key = false := by
  rw [drops]
  split
  · next dropped => exact absurd dropped stays
  · rfl

theorem relocate_eq_self {plan : Plan} (keeps : ∀ other, plan other ≠ some .drop)
    (location : Location) : plan.relocate location = location := by
  induction location generalizing plan with
  | nil => rfl
  | cons key rest ih =>
      have more : (plan.under key).relocate rest = rest := ih fun other => keeps (key :: other)
      cases key with
      | name name => rw [relocate, more]
      | index index => simp [relocate, more, fun position => drops_eq_false_of_ne (keeps [.index position])]

end Plan

namespace Json

theorem length_editedItems_eq (plan : Plan) (first : Nat) (items : List Json) :
    (editedItems plan first items).length =
      (List.range items.length).countP fun position => !plan.drops (.index (first + position)) := by
  induction items generalizing first with
  | nil => rfl
  | cons item rest ih =>
      have more := ih (first + 1)
      rw [List.length_cons, List.range_succ_eq_map, List.countP_cons, List.countP_map]
      simp only [editedItems, Nat.add_zero]
      have shift : ((fun position => !plan.drops (.index (first + position))) ∘ Nat.succ) =
          fun position => !plan.drops (.index (first + 1 + position)) := by
        funext position
        simp only [Function.comp_apply, Nat.succ_eq_add_one]
        rw [show first + (position + 1) = first + 1 + position by omega]
      rw [shift, ← more]
      split
      · next dropped => simp [dropped]
      · next kept => simp [kept]

theorem child?_relocate {value inner : Json} (sorted : value.Sorted) {key : Key}
    (found : value.child? key = some inner) {plan : Plan} (container : plan [] = none)
    (kept : plan.drops key = false) (rest : Location) :
    ∃ key', plan.relocate (key :: rest) = key' :: (plan.under key).relocate rest ∧
      (value.edited plan).child? key' = some (inner.edited (plan.under key)) := by
  cases value with
  | array items =>
      cases key with
      | name name => cases found
      | index index =>
          obtain ⟨before, after, rfl, rfl⟩ := exists_split_items found
          refine ⟨_, rfl, ?_⟩
          have length := length_editedItems_eq plan 0 before
          simp only [Nat.zero_add] at length
          rw [edited_array container, editedItems_around, ← length, kept]
          simp [child?]
  | object members =>
      cases key with
      | index index => cases found
      | name name =>
          obtain ⟨before, after, rfl, absent, _⟩ := exists_split_members sorted.1 found
          refine ⟨.name name, rfl, ?_⟩
          rw [edited_object container, editedMembers_around, kept]
          exact lookup_append (editedMembers_names absent) _ _
  | _ => cases found

theorem at?_relocate {value inner : Json} (sorted : value.Sorted) {location : Location}
    (found : value.at? location = some inner) {plan : Plan}
    (untouched : ∀ above, above <+: location → above ≠ location → plan above = none)
    (stays : plan location ≠ some .drop) :
    (value.edited plan).at? (plan.relocate location) =
      some (inner.edited (plan.below location)) := by
  induction location generalizing value plan with
  | nil =>
      cases found
      rfl
  | cons key rest ih =>
      rw [at?] at found
      split at found
      · next child isChild =>
          have container : plan [] = none :=
            untouched [] List.nil_prefix (List.cons_ne_nil key rest).symm
          have kept : plan.drops key = false := by
            cases rest with
            | nil => exact Plan.drops_eq_false_of_ne stays
            | cons next rest =>
                exact Plan.drops_eq_false (untouched [key] ⟨next :: rest, rfl⟩ (by simp))
          obtain ⟨key', moved, isChild'⟩ := child?_relocate sorted isChild container kept rest
          rw [moved, at?, isChild']
          refine ih (sorted.child isChild) found (fun above isAbove different => ?_) stays
          exact untouched (key :: above) ((List.prefix_cons_inj key).mpr isAbove) (by simpa using different)
      · cases found

end Json

/-! ## No edits at all -/

mutual
theorem Json.edited_empty (value : Json) : value.edited Plan.empty = value := by
  cases value with
  | array items => rw [Json.edited_array rfl, Json.editedItems_empty 0 items]
  | object members => rw [Json.edited_object rfl, Json.editedMembers_empty members]
  | _ => rfl
termination_by sizeOf value

theorem Json.editedItems_empty (index : Nat) (items : List Json) :
    Json.editedItems Plan.empty index items = items := by
  cases items with
  | nil => rfl
  | cons item rest =>
      have under : Plan.empty.under (.index index) = Plan.empty := rfl
      have kept : Plan.empty.drops (.index index) = false := rfl
      rw [Json.editedItems, kept, under, Json.edited_empty item, Json.editedItems_empty (index + 1) rest]
      rfl
termination_by sizeOf items

theorem Json.editedMembers_empty (members : List (String × Json)) :
    Json.editedMembers Plan.empty members = members := by
  match members with
  | [] => rfl
  | (name, value) :: rest =>
      have under : Plan.empty.under (.name name) = Plan.empty := rfl
      have kept : Plan.empty.drops (.name name) = false := rfl
      rw [Json.editedMembers, kept, under, Json.edited_empty value, Json.editedMembers_empty rest]
      rfl
termination_by sizeOf members
end

/-! ## Calls with a state

Callers decide about edits with a state of their own; what a call leaves is what the next one finds.
-/

theorem run_bind_eq {σ α β : Type} {first : StateM σ α} {second : α → StateM σ β}
    {state next : σ} {value : α} (run : first.run state = (value, next)) :
    (first >>= second).run state = (second value).run next := by
  rw [StateT.run_bind, run]
  rfl

end JsonQuery

import Mathlib.Tactic
import JsonQuery.Proofs.Editing

/-! # Inserting into the containers of a query

Values are put into one container after the other, in descending order. No insertion moves a
container that is still to come, and each container still has its own items and names when its turn
comes. What results is the document with all insertions made at once.
-/

namespace JsonQuery

/-- What is done to the value at each location, once everything inside it is done. -/
abbrev Work := Location → Json → Json

namespace Work

def under (work : Work) (key : Key) : Work := fun rest => work (key :: rest)

def below (work : Work) (location : Location) : Work := fun rest => work (location ++ rest)

/-- The same work, but none on the value itself. -/
def inside (work : Work) : Work := fun location => if location = [] then id else work location

end Work

mutual
/-- The value after all work, done from the inside out. Locations are those of the value as it
    was. -/
def Json.worked (work : Work) (value : Json) : Json :=
  match value with
  | .array items => work [] (.array (Json.workedItems work 0 items))
  | .object members => work [] (.object (Json.workedMembers work members))
  | scalar => work [] scalar
termination_by structural value

def Json.workedItems (work : Work) (index : Nat) (items : List Json) : List Json :=
  match items with
  | [] => []
  | item :: rest =>
      item.worked (work.under (.index index)) :: Json.workedItems work (index + 1) rest
termination_by structural items

def Json.workedMembers (work : Work) (members : List (String × Json)) : List (String × Json) :=
  match members with
  | [] => []
  | (name, value) :: rest =>
      (name, value.worked (work.under (.name name))) :: Json.workedMembers work rest
termination_by structural members
end

namespace Json

/-! ## Work inside a container -/

theorem workedItems_eq_map (work : Work) (first : Nat) (items : List Json) :
    workedItems work first items =
      (items.zipIdx first).map fun entry => entry.1.worked (work.under (.index entry.2)) := by
  induction items generalizing first with
  | nil => rfl
  | cons item rest ih => rw [workedItems, ih (first + 1), List.zipIdx_cons, List.map_cons]

theorem workedMembers_eq_map (work : Work) (members : List (String × Json)) :
    workedMembers work members =
      members.map fun member => (member.1, member.2.worked (work.under (.name member.1))) := by
  induction members with
  | nil => rfl
  | cons member rest ih => rw [workedMembers, ih, List.map_cons]

theorem worked_array {work : Work} (idle : work [] = id) (items : List Json) :
    (array items).worked work =
      .array (items.zipIdx.map fun entry => entry.1.worked (work.under (.index entry.2))) := by
  rw [worked, idle, id_eq, workedItems_eq_map]

theorem worked_object {work : Work} (idle : work [] = id) (members : List (String × Json)) :
    (object members).worked work =
      .object (members.map fun member =>
        (member.1, member.2.worked (work.under (.name member.1)))) := by
  rw [worked, idle, id_eq, workedMembers_eq_map]

/-- The work on a value comes after all work inside it. -/
theorem worked_eq_inside (work : Work) (value : Json) :
    value.worked work = work [] (value.worked work.inside) := by
  have under : ∀ key, work.inside.under key = work.under key := by
    intro key
    funext rest
    simp [Work.under, Work.inside]
  have idle : work.inside [] = id := by simp [Work.inside]
  cases value with
  | array items =>
      rw [worked_array idle, worked, workedItems_eq_map]
      simp only [under]
  | object members =>
      rw [worked_object idle, worked, workedMembers_eq_map]
      simp only [under]
  | null | bool _ | number _ | string _ => simp only [worked, idle, id_eq]

theorem lookup_map (name : String) (members : List (String × Json)) (change : String → Json → Json) :
    lookup name (members.map fun member => (member.1, change member.1 member.2)) =
      (lookup name members).map (change name) := by
  induction members with
  | nil => rfl
  | cons member rest ih =>
      obtain ⟨key, value⟩ := member
      rw [List.map_cons, lookup, lookup]
      split
      · next same =>
          subst same
          rfl
      · exact ih

variable {value inner : Json} {key : Key} {work : Work}

theorem child?_worked (found : value.child? key = some inner) (idle : work [] = id) :
    (value.worked work).child? key = some (inner.worked (work.under key)) := by
  cases value with
  | array items =>
      cases key with
      | name name => cases found
      | index index =>
          rw [child?] at found
          rw [worked_array idle, child?, List.getElem?_map, List.getElem?_zipIdx, found]
          simp
  | object members =>
      cases key with
      | index index => cases found
      | name name =>
          rw [child?] at found
          rw [worked_object idle, child?,
            lookup_map name members fun name value => value.worked (work.under (.name name)), found]
          rfl
  | _ => cases found

/-- A container on which no work is done itself, seen from one of its keys: what is changed there
    is put back where it was. -/
theorem exists_hole (sorted : value.Sorted) (found : value.child? key = some inner)
    (idle : work [] = id) :
    ∃ put : Json → Json,
      (∀ change, updateChild? change key (value.worked work) =
        (change (inner.worked (work.under key))).map put) ∧
      ∀ work', work' [] = id → (∀ other, other ≠ key → work'.under other = work.under other) →
        value.worked work' = put (inner.worked (work'.under key)) := by
  cases value with
  | array items =>
      cases key with
      | name name => cases found
      | index index =>
          obtain ⟨before, after, rfl, rfl⟩ := exists_split_items found
          let done (entry : Json × Nat) := entry.1.worked (work.under (.index entry.2))
          refine ⟨fun new => .array (before.zipIdx.map done ++
            new :: (after.zipIdx (before.length + 1)).map done), fun change => ?_,
            fun work' idle' others => ?_⟩
          · have place : (before.zipIdx.map done).length = before.length := by simp
            rw [worked_array idle, List.zipIdx_append, List.zipIdx_cons, List.map_append,
              List.map_cons, Nat.zero_add, updateChild?]
            nth_rewrite 1 [← place]
            rw [updateItem?_append, Option.map_map]
            rfl
          · have first : before.zipIdx.map done =
                before.zipIdx.map fun entry => entry.1.worked (work'.under (.index entry.2)) := by
              refine List.map_congr_left fun entry isEntry => ?_
              have small := List.snd_lt_of_mem_zipIdx isEntry
              rw [others (.index entry.2) (by simp only [ne_eq, Key.index.injEq]; omega)]
            have last : (after.zipIdx (before.length + 1)).map done =
                (after.zipIdx (before.length + 1)).map fun entry =>
                  entry.1.worked (work'.under (.index entry.2)) := by
              refine List.map_congr_left fun entry isEntry => ?_
              have large := List.le_snd_of_mem_zipIdx isEntry
              rw [others (.index entry.2) (by simp only [ne_eq, Key.index.injEq]; omega)]
            rw [worked_array idle', List.zipIdx_append, List.zipIdx_cons, List.map_append,
              List.map_cons, Nat.zero_add, first, last]
  | object members =>
      cases key with
      | index index => cases found
      | name name =>
          obtain ⟨before, after, rfl, absentBefore, absentAfter⟩ :=
            exists_split_members sorted.1 found
          let done (member : String × Json) :=
            (member.1, member.2.worked (work.under (.name member.1)))
          refine ⟨fun new => .object (before.map done ++ (name, new) :: after.map done),
            fun change => ?_, fun work' idle' others => ?_⟩
          · have absent : ∀ member ∈ before.map done, member.1 ≠ name := by
              intro member isMember
              obtain ⟨old, isOld, rfl⟩ := List.mem_map.mp isMember
              exact absentBefore old isOld
            rw [worked_object idle, List.map_append, List.map_cons, updateChild?,
              updateMember?_append change absent, Option.map_map]
            rfl
          · have first : before.map done = before.map fun member =>
                (member.1, member.2.worked (work'.under (.name member.1))) := by
              refine List.map_congr_left fun member isMember => ?_
              rw [others (.name member.1) (by simpa using absentBefore member isMember)]
            have last : after.map done = after.map fun member =>
                (member.1, member.2.worked (work'.under (.name member.1))) := by
              refine List.map_congr_left fun member isMember => ?_
              rw [others (.name member.1) (by simpa using absentAfter member isMember)]
            rw [worked_object idle', List.map_append, List.map_cons, first, last]
  | _ => cases found

/-! ## Work at and below a location -/

theorem exists_context {document inner : Json} (sorted : document.Sorted) {location : Location}
    (found : document.at? location = some inner) {work : Work}
    (idle : ∀ above, above <+: location → above ≠ location → work above = id) :
    ∃ put : Json → Json,
      (∀ change, updateAt? change location (document.worked work) =
        (change (inner.worked (work.below location))).map put) ∧
      ∀ work' : Work, (∀ other, ¬location <+: other → work' other = work other) →
        document.worked work' = put (inner.worked (work'.below location)) := by
  induction location generalizing document work with
  | nil =>
      cases found
      refine ⟨id, fun change => ?_, fun work' _ => rfl⟩
      rw [updateAt?, Option.map_id]
      rfl
  | cons key rest ih =>
      rw [at?] at found
      split at found
      · next child isChild =>
          have here : work [] = id := idle [] List.nil_prefix (List.cons_ne_nil key rest).symm
          have idleRest : ∀ above, above <+: rest → above ≠ rest → work.under key above = id := by
            intro above isAbove different
            exact idle (key :: above) ((List.prefix_cons_inj key).mpr isAbove) (by simpa using different)
          obtain ⟨putRest, changedRest, agreesRest⟩ := ih (sorted.child isChild) found idleRest
          obtain ⟨putHere, changedHere, agreesHere⟩ := exists_hole sorted isChild here
          refine ⟨putHere ∘ putRest, fun change => ?_, fun work' others => ?_⟩
          · rw [updateAt?_cons, changedHere, changedRest, Option.map_map]
            rfl
          · have here' : work' [] = id := (others [] (by simp)).trans here
            have beside : ∀ other, other ≠ key → work'.under other = work.under other := by
              intro other different
              funext below
              refine others (other :: below) fun isAbove => ?_
              exact different (List.cons_prefix_cons.mp isAbove).1.symm
            have belowKey : ∀ other, ¬rest <+: other → work'.under key other = work.under key other := by
              intro other notBelow
              exact others (key :: other) fun isAbove => notBelow ((List.prefix_cons_inj key).mp isAbove)
            rw [agreesHere work' here' beside, agreesRest (work'.under key) belowKey]
            rfl
      · cases found

end Json

/-! ## Slots -/

namespace Slot

/-- The place that an index names among `length` items. A negative one counts from behind the last
    item. -/
def placeOf (length : Nat) (index : Int) : Int := if 0 ≤ index then index else length + 1 + index

/-- The object has no member of that name, or the array is long enough. -/
def fits (slot : Slot) (container : Json) : Bool :=
  match slot, container with
  | .member name, .object members => (Json.lookup name members).isNone
  | .position index, .array items =>
      0 ≤ placeOf items.length index && placeOf items.length index ≤ items.length
  | _, _ => false

def put (slot : Slot) (new container : Json) : Json :=
  match slot, container with
  | .member name, .object members => .object (Json.insertMember name new members)
  | .position index, .array items =>
      .array (items.insertIdx (placeOf items.length index).toNat new)
  | _, _ => container

/-- The key of what is put into a container. -/
def key (slot : Slot) (container : Json) : Key :=
  match slot, container with
  | .member name, _ => .name name
  | .position index, .array items => .index (placeOf items.length index).toNat
  | .position index, _ => .index index.toNat

/-- The key, once the slot of the container is filled, of what was at a key before: items from the
    slot on move to the back by one. -/
def shift (slot : Slot) (container : Json) (key : Key) : Key :=
  match slot, container, key with
  | .position index, .array items, .index old =>
      if placeOf items.length index ≤ old then .index (old + 1) else .index old
  | _, _, _ => key

theorem fill?_eq (slot : Slot) (new container : Json) :
    slot.fill? new container = if slot.fits container then some (slot.put new container) else none := by
  cases container with
  | array items =>
      cases slot with
      | member name => rfl
      | position index =>
          simp only [fill?, place?, fits, put, Bool.and_eq_true, decide_eq_true_eq]
          rw [← placeOf]
          split <;> rfl
  | object members =>
      cases slot with
      | member name => rfl
      | position index => rfl
  | _ => cases slot <;> rfl

/-- Work inside a container changes neither its names nor the number of its items. -/
theorem fits_worked (slot : Slot) {work : Work} (idle : work [] = id) (container : Json) :
    slot.fits (container.worked work) = slot.fits container := by
  cases container with
  | array items =>
      rw [Json.worked_array idle]
      cases slot <;> simp [fits]
  | object members =>
      have names := fun name => Json.lookup_map name members fun name value =>
        value.worked (work.under (.name name))
      rw [Json.worked_object idle]
      cases slot <;> simp [fits, names]
  | null | bool _ | number _ | string _ => simp only [Json.worked, idle, id_eq]

theorem key_worked (slot : Slot) {work : Work} (idle : work [] = id) (container : Json) :
    slot.key (container.worked work) = slot.key container := by
  cases container with
  | array items =>
      rw [Json.worked_array idle]
      cases slot <;> simp [key]
  | object members =>
      rw [Json.worked_object idle]
      cases slot <;> rfl
  | null | bool _ | number _ | string _ => simp only [Json.worked, idle, id_eq]

theorem shift_worked (slot : Slot) {work : Work} (idle : work [] = id) (container : Json) (key : Key) :
    slot.shift (container.worked work) key = slot.shift container key := by
  cases container with
  | array items =>
      rw [Json.worked_array idle]
      cases slot <;> cases key <;> simp [shift]
  | object members =>
      rw [Json.worked_object idle]
      cases slot <;> rfl
  | null | bool _ | number _ | string _ => simp only [Json.worked, idle, id_eq]

theorem child?_put_key {slot : Slot} {container : Json} (fits : slot.fits container = true)
    (new : Json) : (slot.put new container).child? (slot.key container) = some new := by
  cases slot with
  | member name =>
      cases container with
      | object members => exact Json.lookup_insertMember_self name new members
      | _ => cases fits
  | position index =>
      cases container with
      | array items =>
          simp only [Slot.fits, Bool.and_eq_true, decide_eq_true_eq] at fits
          rw [put, key, Json.child?, List.getElem?_insertIdx, if_neg (lt_irrefl _), if_pos rfl,
            if_pos (by omega)]
      | _ => cases fits

theorem child?_put_shift {slot : Slot} {container : Json} (fits : slot.fits container = true)
    {key : Key} {inner : Json} (found : container.child? key = some inner) (new : Json) :
    (slot.put new container).child? (slot.shift container key) = some inner := by
  cases slot with
  | member name =>
      cases container with
      | object members =>
          cases key with
          | index position => cases found
          | name other =>
              have different : other ≠ name := by
                rintro rfl
                rw [Json.child?] at found
                simp [Slot.fits, found] at fits
              rw [put, shift, Json.child?, Json.lookup_insertMember_of_ne different]
              · exact found
              · simp
      | _ => cases fits
  | position index =>
      cases container with
      | array items =>
          cases key with
          | name other => cases found
          | index old =>
              simp only [Slot.fits, Bool.and_eq_true, decide_eq_true_eq] at fits
              rw [put, shift]
              split
              · next moved =>
                  rw [Json.child?, List.getElem?_insertIdx, if_neg (by omega), if_neg (by omega)]
                  exact found
              · next stays =>
                  rw [Json.child?, List.getElem?_insertIdx, if_pos (by omega)]
                  exact found
      | _ => cases fits

/-- The work that puts a value into the slot of the chosen containers. -/
def filling (slot : Slot) (new : Json) (chosen : Location → Bool) : Work := fun location container =>
  if chosen location then slot.put new container else container

/-- Where the value at a location of the document is found after the slots of the chosen containers
    are filled. -/
def moved (slot : Slot) (chosen : Location → Bool) (document : Json) : Location → Location
  | [] => []
  | key :: rest =>
      (if chosen [] then slot.shift document key else key) ::
        match document.child? key with
        | some inner => slot.moved (fun below => chosen (key :: below)) inner rest
        | none => rest

theorem filling_idle {slot : Slot} {new : Json} {chosen : Location → Bool} {location : Location}
    (other : chosen location = false) : slot.filling new chosen location = id := by
  funext container
  simp [filling, other]

theorem filling_chosen {slot : Slot} {new : Json} {chosen : Location → Bool} {location : Location}
    (isChosen : chosen location = true) : slot.filling new chosen location = slot.put new := by
  funext container
  simp [filling, isChosen]

/-! ## Filling one container after the other -/

/-- Whether the value at a location of the document takes another one into the slot. -/
def takes (slot : Slot) (document : Json) (location : Location) : Bool :=
  (document.at? location).any slot.fits

/-- All chosen locations come after a location. -/
def ChosenAfter (chosen : Location → Bool) (location : Location) : Prop :=
  ∀ other, chosen other = true → location.Before other

theorem ChosenAfter.idle {slot : Slot} {new : Json} {chosen : Location → Bool} {location : Location}
    (after : ChosenAfter chosen location) {above : Location} (isAbove : above <+: location) :
    slot.filling new chosen above = id := by
  refine filling_idle (Bool.eq_false_iff.mpr fun isChosen => ?_)
  obtain ⟨below, rfl⟩ := isAbove
  have back := after above isChosen
  cases below with
  | nil => exact back.ne (List.append_nil above)
  | cons key rest => exact ((Location.before_append above (List.cons_ne_nil key rest)).trans back).ne rfl

/-- A container that all filled ones come after takes the value exactly if it did so in the document
    as it was, and is filled as if all were filled at once. -/
theorem updateAt?_fill? {document container : Json} (sorted : document.Sorted) {location : Location}
    (found : document.at? location = some container) (slot : Slot) (new : Json)
    {chosen : Location → Bool} (after : ChosenAfter chosen location) :
    Json.updateAt? (slot.fill? new) location (document.worked (slot.filling new chosen)) =
      if slot.takes document location then
        some (document.worked (slot.filling new fun other => chosen other || other == location))
      else none := by
  have here : (slot.filling new chosen).below location [] = id := by
    rw [Work.below, List.append_nil]
    exact after.idle List.prefix_rfl
  have idle : ∀ above, above <+: location → above ≠ location →
      slot.filling new chosen above = id := fun above isAbove _ => after.idle isAbove
  obtain ⟨putBack, changed, agrees⟩ := Json.exists_context sorted found idle
  rw [changed, fill?_eq, fits_worked slot here, takes, found, Option.any_some]
  split
  · have others : ∀ other, ¬location <+: other →
        slot.filling new (fun other => chosen other || other == location) other =
          slot.filling new chosen other := by
      intro other notBelow
      have different : (other == location) = false := by
        refine beq_eq_false_iff_ne.mpr ?_
        rintro rfl
        exact notBelow List.prefix_rfl
      funext inner
      simp [filling, different]
    have inside : ((slot.filling new fun other => chosen other || other == location).below
        location).inside = (slot.filling new chosen).below location := by
      funext rest
      cases rest with
      | nil => exact here.symm
      | cons key rest =>
          funext inner
          simp [Work.inside, Work.below, filling]
    have filled : (slot.filling new fun other => chosen other || other == location).below location [] =
        slot.put new := by
      rw [Work.below, List.append_nil, filling_chosen (by simp)]
    have whole := Json.worked_eq_inside
      ((slot.filling new fun other => chosen other || other == location).below location) container
    rw [inside, filled] at whole
    rw [agrees _ others, whole]
    rfl
  · rfl

/-- Filling containers in descending order fills all that take the value, as if at once. -/
theorem fillAll_eq {document : Json} (sorted : document.Sorted) (slot : Slot) (new : Json)
    {locations : List Location} (descending : locations.Pairwise fun a b => Location.Before b a)
    (present : ∀ location ∈ locations, ∃ container, document.at? location = some container)
    {chosen : Location → Bool} (after : ∀ location ∈ locations, ChosenAfter chosen location) :
    slot.fillAll new locations (document.worked (slot.filling new chosen)) =
      ((locations.filter (slot.takes document)).length,
        document.worked (slot.filling new fun location =>
          chosen location || (locations.filter (slot.takes document)).contains location)) := by
  induction locations generalizing chosen with
  | nil => simp [fillAll]
  | cons location rest ih =>
      obtain ⟨before, descendingRest⟩ := List.pairwise_cons.mp descending
      obtain ⟨container, found⟩ := present location List.mem_cons_self
      have presentRest := fun other isRest => present other (List.mem_cons_of_mem location isRest)
      have afterHere := after location List.mem_cons_self
      have afterOthers : ∀ other ∈ rest, ChosenAfter chosen other :=
        fun other isRest => after other (List.mem_cons_of_mem _ isRest)
      rw [fillAll, updateAt?_fill? sorted found slot new afterHere]
      cases takes : slot.takes document location with
      | false =>
          rw [List.filter_cons_of_neg (by simp [takes])]
          exact ih descendingRest presentRest afterOthers
      | true =>
          have afterRest : ∀ other ∈ rest,
              ChosenAfter (fun other => chosen other || other == location) other := by
            intro other isRest chosenOne isChosen
            rcases (Bool.or_eq_true _ _).mp isChosen with old | same
            · exact afterOthers other isRest chosenOne old
            · exact beq_iff_eq.mp same ▸ before other isRest
          have more := ih descendingRest presentRest afterRest
          simp only [if_true, more, List.filter_cons_of_pos takes, List.length_cons,
            List.contains_cons, Bool.or_assoc]

end Slot

/-! ## Where everything is afterwards -/

namespace Json

theorem at?_moved {slot : Slot} {new : Json} {chosen : Location → Bool} {document value : Json}
    (fits : ∀ location container, chosen location = true → document.at? location = some container →
      slot.fits container = true)
    {location : Location} (found : document.at? location = some value) :
    (document.worked (slot.filling new chosen)).at? (slot.moved chosen document location) =
      some (value.worked ((slot.filling new chosen).below location)) := by
  induction location generalizing document chosen with
  | nil =>
      cases found
      rfl
  | cons key rest ih =>
      rw [at?] at found
      split at found
      · next child isChild =>
          have under : (slot.filling new chosen).under key =
              slot.filling new fun below => chosen (key :: below) := rfl
          have fitsRest : ∀ location container, chosen (key :: location) = true →
              child.at? location = some container → slot.fits container = true := by
            intro location container isChosen isContainer
            refine fits (key :: location) container isChosen ?_
            rw [at?, isChild]
            exact isContainer
          have idle : (slot.filling new chosen).inside [] = id := by simp [Work.inside]
          have inside : (slot.filling new chosen).inside.under key =
              (slot.filling new chosen).under key := by
            funext below
            simp [Work.inside, Work.under]
          have step : (document.worked (slot.filling new chosen)).child?
              (if chosen [] then slot.shift document key else key) =
                some (child.worked ((slot.filling new chosen).under key)) := by
            have childInside := child?_worked isChild idle
            rw [inside] at childInside
            rw [worked_eq_inside]
            split
            · next isChosen =>
                have fitsHere := fits [] document isChosen rfl
                rw [← Slot.fits_worked slot idle] at fitsHere
                rw [Slot.filling_chosen isChosen, ← Slot.shift_worked slot idle]
                exact Slot.child?_put_shift fitsHere childInside new
            · next notChosen =>
                rw [Slot.filling_idle (Bool.eq_false_iff.mpr notChosen)]
                exact childInside
          rw [Slot.moved, isChild, at?, step]
          exact ih fitsRest found
      · cases found

end Json

/-! ## Whole insertions -/

/-- The locations of the selected nodes, each once. -/
def Query.locations (q : Query) (document : Json) : List Location :=
  ((q.run document).map Node.location).eraseDups

theorem Query.mem_locations {q : Query} {document : Json} {location : Location} :
    location ∈ q.locations document ↔ ∃ node ∈ q.run document, node.location = location := by
  rw [Query.locations, List.mem_eraseDups, List.mem_map]

/-- What it means to put a value into the slot of some containers of a document. Which of them take
    it is decided by the document as it was; `outcome` is their number and the new document. -/
structure Json.Inserts (document : Json) (slot : Slot) (new : Json) (containers : List Location)
    (outcome : Nat × Json) : Prop where
  /-- The containers come each once. -/
  distinct : containers.Nodup
  /-- All containers that take the value are counted. -/
  count : outcome.1 = (containers.filter (slot.takes document)).length
  /-- All containers that take the value are filled at once. -/
  atOnce : outcome.2 = document.worked
    (slot.filling new (containers.filter (slot.takes document)).contains)
  /-- What is put in stays as it is: nothing is put in inside it. -/
  copies : ∀ location container, location ∈ containers → document.at? location = some container →
    slot.fits container = true →
      outcome.2.at? (slot.moved (containers.filter (slot.takes document)).contains document location ++
        [slot.key container]) = some new
  /-- All values of the document are still there, with what was put in inside them. -/
  kept : ∀ location value, document.at? location = some value →
    outcome.2.at? (slot.moved (containers.filter (slot.takes document)).contains document location) =
      some (value.worked
        ((slot.filling new (containers.filter (slot.takes document)).contains).below location))
  /-- A value is the same as before if no container at its location or below takes anything. -/
  unchanged : ∀ location value, document.at? location = some value →
    (∀ below, slot.takes document (location ++ below) = true → location ++ below ∉ containers) →
      outcome.2.at? (slot.moved (containers.filter (slot.takes document)).contains document location) =
        some value

mutual
theorem Json.worked_id (value : Json) : value.worked (fun _ => id) = value := by
  cases value with
  | array items =>
      rw [Json.worked, Json.workedItems_id 0 items]
      rfl
  | object members =>
      rw [Json.worked, Json.workedMembers_id members]
      rfl
  | _ => rfl
termination_by sizeOf value

theorem Json.workedItems_id (index : Nat) (items : List Json) :
    Json.workedItems (fun _ => id) index items = items := by
  cases items with
  | nil => rfl
  | cons item rest =>
      rw [Json.workedItems, Json.workedItems_id (index + 1) rest]
      exact congrArg (· :: rest) (Json.worked_id item)
termination_by sizeOf items

theorem Json.workedMembers_id (members : List (String × Json)) :
    Json.workedMembers (fun _ => id) members = members := by
  match members with
  | [] => rfl
  | (name, value) :: rest =>
      rw [Json.workedMembers, Json.workedMembers_id rest]
      exact congrArg (fun value => (name, value) :: rest) (Json.worked_id value)
termination_by sizeOf members
end

/-- Filling the containers one after the other, in descending order, does everything that putting a
    value into them means. -/
theorem Json.inserts_fillAll {document : Json} (sorted : document.Sorted) (slot : Slot) (new : Json)
    {containers : List Location} (distinct : containers.Nodup)
    (present : ∀ location ∈ containers, ∃ container, document.at? location = some container) :
    document.Inserts slot new containers
      (slot.fillAll new (Location.descending containers) document) := by
  have perm := Location.descending_perm containers
  have filtered := perm.filter (slot.takes document)
  have noneChosen : slot.filling new (fun _ => false) = fun _ => id := by
    funext location
    exact Slot.filling_idle rfl
  have filled := Slot.fillAll_eq sorted slot new (Location.pairwise_descending distinct)
    (fun location isContainer => present location (perm.mem_iff.mp isContainer))
    (fun _ _ _ isChosen => absurd isChosen Bool.false_ne_true)
  rw [noneChosen, Json.worked_id] at filled
  have same : (fun location => false ||
      ((Location.descending containers).filter (slot.takes document)).contains location) =
        (containers.filter (slot.takes document)).contains := by
    funext location
    rw [Bool.false_or, Bool.eq_iff_iff, List.contains_iff_mem, List.contains_iff_mem,
      filtered.mem_iff]
  rw [same, filtered.length_eq] at filled
  have fits : ∀ location container,
      (containers.filter (slot.takes document)).contains location = true →
        document.at? location = some container → slot.fits container = true := by
    intro location container isChosen found
    have takes := (List.mem_filter.mp (List.contains_iff_mem.mp isChosen)).2
    rwa [Slot.takes, found] at takes
  rw [filled]
  refine ⟨distinct, rfl, rfl, ?_, fun _ _ => Json.at?_moved fits, ?_⟩
  · intro location container isContainer found fitsHere
    have takes : slot.takes document location = true := by rw [Slot.takes, found]; exact fitsHere
    have isChosen : (containers.filter (slot.takes document)).contains location = true :=
      List.contains_iff_mem.mpr (List.mem_filter.mpr ⟨isContainer, takes⟩)
    have put : (slot.filling new (containers.filter (slot.takes document)).contains).below location [] =
        slot.put new := by
      rw [Work.below, List.append_nil, Slot.filling_chosen isChosen]
    have idle : ((slot.filling new
        (containers.filter (slot.takes document)).contains).below location).inside [] = id := by
      simp [Work.inside]
    rw [Json.at?_append, Json.at?_moved fits found, Option.bind_some, Json.worked_eq_inside, put,
      ← Slot.key_worked slot idle, Json.at?, Slot.child?_put_key]
    · rfl
    · rw [Slot.fits_worked slot idle]
      exact fitsHere
  · intro location value found untouched
    have idle : (slot.filling new (containers.filter (slot.takes document)).contains).below location =
        fun _ => id := by
      funext below
      refine Slot.filling_idle (Bool.eq_false_iff.mpr fun isChosen => ?_)
      obtain ⟨isContainer, takes⟩ := List.mem_filter.mp (List.contains_iff_mem.mp isChosen)
      exact untouched below takes isContainer
    rw [Json.at?_moved fits found, idle, Json.worked_id]

/-- A query that ends with a name or an index puts the value into the containers that its parent
    selects; every other query changes nothing. -/
theorem Query.insert_inserts (q : Query) (new document : Json) (sorted : document.Sorted) :
    match q.links.getLast? with
    | some (.name name) => ∃ parent, q.parent? = some parent ∧
        document.Inserts (.member name) new (parent.locations document) (q.insert new document)
    | some (.index index) => ∃ parent, q.parent? = some parent ∧
        document.Inserts (.position index) new (parent.locations document) (q.insert new document)
    | _ => q.insert new document = (0, document) := by
  have inserts : ∀ slot, q.slot? = some slot → ∃ parent, q.parent? = some parent ∧
      document.Inserts slot new (parent.locations document) (q.insert new document) := by
    intro slot isSlot
    cases isParent : q.parent? with
    | none =>
        rw [Query.slot?, Query.parent?_eq_none_iff.mp isParent] at isSlot
        cases isSlot
    | some parent =>
        refine ⟨parent, rfl, ?_⟩
        simp only [Query.insert, isSlot, isParent, Node.location_distinct]
        refine Json.inserts_fillAll sorted slot new (nodup_eraseDups _) fun location member => ?_
        obtain ⟨node, selected, rfl⟩ := Query.mem_locations.mp member
        exact ⟨node.value, Query.at?_location sorted selected⟩
  have nothing : q.slot? = none → q.insert new document = (0, document) := by
    intro noSlot
    rw [Query.insert, noSlot]
  rw [Query.slot?] at inserts nothing
  split
  · next name last => exact inserts (.member name) (by rw [last]; rfl)
  · next index last => exact inserts (.position index) (by rw [last]; rfl)
  · next notName notIndex =>
      refine nothing ?_
      cases last : q.links.getLast? with
      | none => rfl
      | some term =>
          cases term with
          | name name => exact absurd last (notName name)
          | index index => exact absurd last (notIndex index)
          | _ => rfl

/-- A query for the place before the last item of every array inside another container. -/
def beforeLastQuery : Query where
  links := [.descendant (.ofTerm (.child [.ofTerm .wildcard, .ofTerm (.index 0)])), .index (-2)]
  source := "$..[*, 0][-2]"

/-- The document `{"a": [[1, 2], [3]], "b": {"c": []}}`. -/
def listsDocument : Json :=
  .object [("a", .array [.array [.int 1, .int 2], .array [.int 3]]), ("b", .object [("c", .array [])])]

/-- The document with `[9]` before the last item of every array that has one. -/
def filledLists : Json :=
  .object [("a", .array [.array [.int 1, .array [.int 9], .int 2], .array [.int 9],
    .array [.array [.int 9], .int 3]]), ("b", .object [("c", .array [])])]

theorem Query.insert_inserts_lists :
    listsDocument.Sorted ∧
      beforeLastQuery.insert (.array [.int 9]) listsDocument = (3, filledLists) ∧
      listsDocument.Inserts (.position (-2)) (.array [.int 9])
        [[.name "a"], [.name "b"], [.name "a", .index 0], [.name "a", .index 1],
          [.name "a", .index 0, .index 0], [.name "a", .index 0, .index 1],
          [.name "a", .index 1, .index 0], [.name "b", .name "c"]]
        (3, filledLists) := by
  have sorted : listsDocument.Sorted := by
    refine ⟨List.pairwise_pair.mpr (by decide), ?_⟩
    simp [Json.Sorted, Json.SortedItems, Json.SortedMembers, Json.NamesSorted, Json.int]
  have inserted : beforeLastQuery.insert (.array [.int 9]) listsDocument = (3, filledLists) := by cbv
  obtain ⟨parent, isParent, inserts⟩ :=
    Query.insert_inserts beforeLastQuery (.array [.int 9]) listsDocument sorted
  cases isParent
  have locations : Query.locations ⟨beforeLastQuery.links.dropLast, "$..[*, 0]"⟩ listsDocument =
      [[.name "a"], [.name "b"], [.name "a", .index 0], [.name "a", .index 1],
        [.name "a", .index 0, .index 0], [.name "a", .index 0, .index 1],
        [.name "a", .index 1, .index 0], [.name "b", .name "c"]] := by cbv
  rw [inserted] at inserts
  exact ⟨sorted, inserted, locations ▸ inserts⟩

end JsonQuery

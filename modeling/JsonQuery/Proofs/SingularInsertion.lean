import JsonQuery.Proofs.Insertion

/-! # Singular queries find what they insert

Names and indices lead along one way. What is put in at its end does not change the way, so the query
that put it in finds it, and nothing else, and takes it out again. Positions of insertion count from
behind the last item and indices from the last item, but of an array that is longer by one.
-/

namespace JsonQuery

/-! ## The way of a singular query -/

/-- The key and the value that a name or an index picks in a container. -/
def Term.pick? (term : Term) (container : Json) : Option (Key × Json) :=
  match term, container with
  | .name wanted, .object members => (Json.lookup wanted members).map (Key.name wanted, ·)
  | .index signed, .array items =>
      (Node.normalizeIndex? items.length signed).bind fun position =>
        (items[position]?).map (Key.index position, ·)
  | _, _ => none

/-- Where names and indices lead from a value, and what they find there. -/
def Term.lead? : List Term → Json → Option (Location × Json)
  | [], value => some ([], value)
  | term :: rest, value =>
      (term.pick? value).bind fun picked =>
        (lead? rest picked.2).map fun found => (picked.1 :: found.1, found.2)

theorem Term.visit_singular (document : Json) {term : Term} (singular : term.isSingular = true)
    (next : Node → List Node) (node : Node) :
    term.visit document next node =
      (term.pick? node.value).elim [] fun picked => next (node.child picked.1 picked.2) := by
  obtain ⟨trail, value, parent⟩ := node
  cases term with
  | name name =>
      cases value with
      | object members =>
          cases found : Json.lookup name members <;>
            simp [Term.visit, Node.member?, Term.pick?, found]
      | _ => rfl
  | index index =>
      cases value with
      | array items =>
          cases normal : Node.normalizeIndex? items.length index with
          | none => simp [Term.visit, Node.item?, Term.pick?, normal]
          | some position =>
              cases found : items[position]? <;>
                simp [Term.visit, Node.item?, Node.itemAt?, Term.pick?, normal, found]
      | _ => rfl
  | _ => cases singular

theorem Term.follow_singular (document : Json) {links : List Term}
    (singular : ∀ term ∈ links, term.isSingular = true) (node : Node) :
    match Term.lead? links node.value with
    | some (location, value) => ∃ final, Term.follow document links node = [final] ∧
        final.location = node.location ++ location ∧ final.value = value
    | none => Term.follow document links node = [] := by
  induction links generalizing node with
  | nil => exact ⟨node, rfl, (List.append_nil _).symm, rfl⟩
  | cons term rest ih =>
      obtain ⟨first, others⟩ := List.forall_mem_cons.mp singular
      rw [Term.follow, Term.visit_singular document first, Term.lead?]
      cases picked : term.pick? node.value with
      | none => rfl
      | some entry =>
          obtain ⟨key, inner⟩ := entry
          have more := ih others (node.child key inner)
          rw [Node.value_child] at more
          simp only [Option.bind_some, Option.elim_some]
          cases led : Term.lead? rest inner with
          | none =>
              rw [led] at more
              exact more
          | some found =>
              rw [led] at more
              obtain ⟨final, followed, ends, same⟩ := more
              refine ⟨final, followed, ?_, same⟩
              rw [ends, Node.location_child, List.append_assoc, List.singleton_append]

theorem Term.lead?_concat (links : List Term) (term : Term) (value : Json) :
    Term.lead? (links ++ [term]) value =
      (Term.lead? links value).bind fun found =>
        (term.pick? found.2).map fun picked => (found.1 ++ [picked.1], picked.2) := by
  induction links generalizing value with
  | nil =>
      cases picked : term.pick? value <;> simp [Term.lead?, picked]
  | cons first rest ih =>
      rw [List.cons_append, Term.lead?, Term.lead?]
      cases first.pick? value with
      | none => rfl
      | some entry =>
          obtain ⟨key, inner⟩ := entry
          simp only [Option.bind_some, ih, Option.bind_map, Option.map_bind, Option.map_map,
            Function.comp_def, List.cons_append]

/-! ## The way stays -/

/-- A container around what a name or an index picks: whatever stands there is picked, and can be
changed there. -/
theorem Term.exists_hole {term : Term} {value inner : Json} {key : Key} (sorted : value.Sorted)
    (picked : term.pick? value = some (key, inner)) :
    ∃ put : Json → Json, put inner = value ∧ ∀ new,
      term.pick? (put new) = some (key, new) ∧
        ∀ change, Json.updateChild? change key (put new) = (change new).map put := by
  cases term with
  | name name =>
      cases value with
      | object members =>
          obtain ⟨found, isMember, same⟩ := Option.map_eq_some_iff.mp picked
          cases same
          obtain ⟨before, after, rfl, absent, _⟩ := Json.exists_split_members sorted.1 isMember
          refine ⟨fun new => .object (before ++ (name, new) :: after), rfl, fun new => ⟨?_, ?_⟩⟩
          · rw [Term.pick?, Json.lookup_append absent]
            rfl
          · intro change
            rw [Json.updateChild?, Json.updateMember?_append change absent, Option.map_map]
            rfl
      | _ => cases picked
  | index index =>
      cases value with
      | array items =>
          obtain ⟨position, normal, isItem⟩ := Option.bind_eq_some_iff.mp picked
          obtain ⟨found, isItem, same⟩ := Option.map_eq_some_iff.mp isItem
          cases same
          obtain ⟨before, after, rfl, rfl⟩ := Json.exists_split_items isItem
          refine ⟨fun new => .array (before ++ new :: after), rfl, fun new => ⟨?_, ?_⟩⟩
          · rw [List.length_append, List.length_cons] at normal
            simp [Term.pick?, normal]
          · intro change
            rw [Json.updateChild?, Json.updateItem?_append, Option.map_map]
            rfl
      | _ => cases picked
  | _ => cases value <;> cases picked

theorem Term.child?_of_pick? {term : Term} {value inner : Json} {key : Key}
    (picked : term.pick? value = some (key, inner)) : value.child? key = some inner := by
  cases term with
  | name name =>
      cases value with
      | object members =>
          obtain ⟨found, isMember, same⟩ := Option.map_eq_some_iff.mp picked
          cases same
          exact isMember
      | _ => cases picked
  | index index =>
      cases value with
      | array items =>
          obtain ⟨position, _, isItem⟩ := Option.bind_eq_some_iff.mp picked
          obtain ⟨found, isItem, same⟩ := Option.map_eq_some_iff.mp isItem
          cases same
          exact isItem
      | _ => cases picked
  | _ => cases value <;> cases picked

/-- A document around the end of a way: whatever stands there, the way is the same, and it can be
changed there. -/
structure Term.Frame (links : List Term) (location : Location) (put : Json → Json) : Prop where
  lead : ∀ inner, Term.lead? links (put inner) = some (location, inner)
  update : ∀ change inner, Json.updateAt? change location (put inner) = (change inner).map put

theorem Term.exists_frame {links : List Term} {value inner : Json} {location : Location}
    (sorted : value.Sorted) (led : Term.lead? links value = some (location, inner)) :
    ∃ put : Json → Json, put inner = value ∧ Term.Frame links location put := by
  induction links generalizing value location with
  | nil =>
      cases led
      refine ⟨id, rfl, fun new => rfl, fun change new => ?_⟩
      rw [Option.map_id]
      rfl
  | cons term rest ih =>
      obtain ⟨⟨key, child⟩, picked, more⟩ := Option.bind_eq_some_iff.mp led
      obtain ⟨⟨below, found⟩, ledRest, same⟩ := Option.map_eq_some_iff.mp more
      cases same
      obtain ⟨putHere, rfl, here⟩ := Term.exists_hole sorted picked
      have sortedChild := sorted.child (Term.child?_of_pick? picked)
      obtain ⟨putRest, rfl, onward⟩ := ih sortedChild ledRest
      refine ⟨putHere ∘ putRest, rfl, fun new => ?_, fun change new => ?_⟩
      · rw [Function.comp_apply, Term.lead?, (here (putRest new)).1, Option.bind_some, onward.lead]
        rfl
      · rw [Function.comp_apply, Json.updateAt?_cons, (here (putRest new)).2, onward.update,
          Option.map_map]

/-! ## Filling a slot and emptying it -/

theorem Json.ne_of_lookup {name : String} {members : List (String × Json)}
    (absent : Json.lookup name members = none) : ∀ member ∈ members, member.1 ≠ name := by
  induction members with
  | nil =>
      intro member isMember
      cases isMember
  | cons member rest ih =>
      rw [Json.lookup] at absent
      split at absent
      · cases absent
      · next different => exact List.forall_mem_cons.mpr ⟨different, ih absent⟩

theorem Json.filter_insertMember {name : String} {members : List (String × Json)}
    (absent : ∀ member ∈ members, member.1 ≠ name) (value : Json) :
    (Json.insertMember name value members).filter (fun member => member.1 != name) = members := by
  induction members with
  | nil => simp [Json.insertMember]
  | cons member rest ih =>
      obtain ⟨key, old⟩ := member
      have all : ((key, old) :: rest).filter (fun member => member.1 != name) = (key, old) :: rest :=
        List.filter_eq_self.mpr fun member isMember => by simpa using absent member isMember
      obtain ⟨different, others⟩ := List.forall_mem_cons.mp absent
      rw [Json.insertMember]
      split
      · rw [List.filter_cons_of_neg (by simp), all]
      · rw [if_neg different.symm, List.filter_cons_of_pos (by simpa using different), ih others]

namespace Slot

variable {slot : Slot} {container : Json}

theorem exists_of_isSingular {term : Term} (singular : term.isSingular = true) :
    ∃ slot, Slot.ofTerm? term = some slot := by
  cases term with
  | name name => exact ⟨.member name, rfl⟩
  | index index => exact ⟨.position index, rfl⟩
  | _ => cases singular

/-- The slot of a name takes a value where the name picks nothing from an object. -/
theorem fits_member_iff (name : String) (container : Json) :
    (Slot.member name).fits container = true ↔
      (Term.name name).pick? container = none ∧ ∃ members, container = .object members := by
  cases container <;> simp [fits, Term.pick?]

/-- The slot of an index takes a value in front of every item of an array and behind the last
    one. -/
theorem fits_position_iff (index : Int) (container : Json) :
    (Slot.position index).fits container = true ↔
      ∃ items, container = .array items ∧
        -((items.length : Int) + 1) ≤ index ∧ index ≤ items.length := by
  cases container with
  | array items =>
      simp only [fits, Bool.and_eq_true, decide_eq_true_eq, Json.array.injEq, exists_eq_left']
      unfold placeOf
      split <;> omega
  | _ => simp [fits]

theorem removeChild?_put (fits : slot.fits container = true) (new : Json) :
    Json.removeChild? (slot.key container) (slot.put new container) = some container := by
  cases slot with
  | member name =>
      cases container with
      | object members =>
          have absent := Json.ne_of_lookup (Option.isNone_iff_eq_none.mp fits)
          simp only [put, key, Json.removeChild?, Json.lookup_insertMember_self, Option.isSome_some,
            if_true, Json.filter_insertMember absent]
      | _ => cases fits
  | position index =>
      cases container with
      | array items =>
          simp only [Slot.fits, Bool.and_eq_true, decide_eq_true_eq] at fits
          have place : (placeOf items.length index).toNat ≤ items.length := by omega
          rw [put, key, Json.removeChild?, List.length_insertIdx_of_le_length place,
            if_pos (by omega), List.eraseIdx_insertIdx_self]
      | _ => cases fits

theorem pick?_put {term : Term} (isSlot : Slot.ofTerm? term = some slot)
    (fits : slot.fits container = true) (new : Json) :
    term.pick? (slot.put new container) = some (slot.key container, new) := by
  have inside := child?_put_key fits new
  cases term with
  | name name =>
      cases isSlot
      cases container with
      | object members =>
          rw [put, key, Json.child?] at inside
          rw [put, key, Term.pick?, inside]
          rfl
      | _ => cases fits
  | index index =>
      cases isSlot
      cases container with
      | array items =>
          simp only [Slot.fits, Bool.and_eq_true, decide_eq_true_eq] at fits
          have place : (placeOf items.length index).toNat ≤ items.length := by omega
          have normal : Node.normalizeIndex? (items.length + 1) index =
              some (placeOf items.length index).toNat := by
            have absolute : (if index < 0 then ((items.length + 1 : Nat) : Int) + index else index) =
                placeOf items.length index := by
              unfold placeOf
              split <;> split <;> omega
            simp only [Node.normalizeIndex?, absolute]
            exact if_pos (by omega)
          rw [put, key, Json.child?] at inside
          rw [put, key, Term.pick?, List.length_insertIdx_of_le_length place, normal,
            Option.bind_some, inside]
          rfl
      | _ => cases fits
  | _ => cases isSlot

end Slot

/-! ## Whole queries -/

namespace Query

variable {q parent : Query} {document : Json}

theorem links_of_isSingular (singular : q.isSingular = true) :
    ∀ term ∈ q.links, term.isSingular = true :=
  List.all_eq_true.mp singular

theorem run_singular (singular : ∀ term ∈ q.links, term.isSingular = true) (document : Json) :
    match Term.lead? q.links document with
    | some (location, value) =>
        ∃ final, q.run document = [final] ∧ final.location = location ∧ final.value = value
    | none => q.run document = [] :=
  Term.follow_singular document singular (.root document)

theorem search_singular (singular : ∀ term ∈ q.links, term.isSingular = true) (document : Json) :
    q.search document = ((Term.lead? q.links document).map Prod.snd).toList := by
  have run := run_singular singular document
  rw [search]
  cases led : Term.lead? q.links document with
  | none =>
      rw [led] at run
      rw [run]
      rfl
  | some found =>
      rw [led] at run
      obtain ⟨final, selected, _, same⟩ := run
      rw [selected, List.map_singleton, same]
      rfl

theorem insert_singular (singular : ∀ term ∈ parent.links, term.isSingular = true) {slot : Slot}
    (isSlot : q.slot? = some slot) (isParent : q.parent? = some parent) (new document : Json) :
    q.insert new document =
      match Term.lead? parent.links document with
      | some (location, _) => slot.fillAll new [location] document
      | none => (0, document) := by
  have run := run_singular singular document
  simp only [insert, isSlot, isParent]
  cases led : Term.lead? parent.links document with
  | none =>
      rw [led] at run
      have none' : Location.descending [] = [] := List.mergeSort_nil
      simp [run, Node.distinct, none', Slot.fillAll]
  | some found =>
      rw [led] at run
      obtain ⟨final, selected, ends, _⟩ := run
      have one : Location.descending [found.1] = [found.1] := List.mergeSort_singleton found.1
      simp [selected, Node.distinct, ends, one]

theorem delete_of_run {final : Node} (selected : q.run document = [final])
    (inside : final.location ≠ []) :
    q.delete document = ([final.value], document.removeAll [final.location]) := by
  have one : Location.descending [final.location] = [final.location] :=
    List.mergeSort_singleton final.location
  have kept : (!final.location.isEmpty) = true := by simpa using inside
  simp [delete, deleteIf, selected, Node.accepted, Node.distinct, kept, one]

/-- What it means that a query finds what it inserts and takes it out again. -/
structure TakesBack (q parent : Query) (new document : Json) : Prop where
  once : (q.insert new document).1 = 0 ∨ (q.insert new document).1 = 1
  unchanged : (q.insert new document).1 = 0 → (q.insert new document).2 = document
  found : (q.insert new document).1 = 1 → q.search (q.insert new document).2 = [new]
  removed : (q.insert new document).1 = 1 → q.delete (q.insert new document).2 = ([new], document)
  /-- A name is new to an object that the parent finds. -/
  member : ∀ name, q.links.getLast? = some (.name name) →
    ((q.insert new document).1 = 1 ↔
      q.search document = [] ∧ ∃ members, parent.search document = [.object members])
  /-- An index is a place in an array that the parent finds, the one behind the last item
      included. -/
  item : ∀ index, q.links.getLast? = some (.index index) →
    ((q.insert new document).1 = 1 ↔
      ∃ items, parent.search document = [.array items] ∧
        -((items.length : Int) + 1) ≤ index ∧ index ≤ items.length)

theorem search_of_lead {term : Term} (links : q.links = parent.links ++ [term])
    (singular : ∀ term ∈ q.links, term.isSingular = true) {location : Location} {container : Json}
    (led : Term.lead? parent.links document = some (location, container)) :
    parent.search document = [container] ∧
      q.search document = ((term.pick? container).map Prod.snd).toList := by
  have above : ∀ term ∈ parent.links, term.isSingular = true := fun term isTerm =>
    singular term (by rw [links]; exact List.mem_append_left [_] isTerm)
  constructor
  · rw [search_singular above, led]
    rfl
  · rw [search_singular singular, links, Term.lead?_concat, led, Option.bind_some, Option.map_map]
    rfl

/-- A singular query finds what it has put into a container, and takes it out again. -/
theorem finds_and_removes {slot : Slot} {term : Term} (isSlot : Slot.ofTerm? term = some slot)
    (links : q.links = parent.links ++ [term])
    (singular : ∀ term ∈ q.links, term.isSingular = true) {location : Location} {container : Json}
    {put : Json → Json} (frame : Term.Frame parent.links location put)
    (fits : slot.fits container = true) (new : Json) :
    q.search (put (slot.put new container)) = [new] ∧
      q.delete (put (slot.put new container)) = ([new], put container) := by
  have led : Term.lead? q.links (put (slot.put new container)) =
      some (location ++ [slot.key container], new) := by
    rw [links, Term.lead?_concat, frame.lead, Option.bind_some, Slot.pick?_put isSlot fits,
      Option.map_some]
  have run := run_singular singular (put (slot.put new container))
  rw [led] at run
  obtain ⟨final, selected, ends, same⟩ := run
  have inside : final.location ≠ [] := by simp [ends]
  have emptied : Json.removeAt? (location ++ [slot.key container]) (put (slot.put new container)) =
      some (put container) := by
    simp only [Json.removeAt?, List.getLast?_concat, List.dropLast_concat]
    rw [frame.update, Slot.removeChild?_put fits]
    rfl
  constructor
  · rw [search_singular singular, led]
    rfl
  · rw [delete_of_run selected inside, ends, same]
    simp [Json.removeAll, emptied]

/-- The parent of a query has all its terms but the last one, and this one names the slot. -/
theorem exists_parent (q : Query) (inside : q.links ≠ []) :
    ∃ parent term, q.parent? = some parent ∧ q.links = parent.links ++ [term] ∧
      q.slot? = Slot.ofTerm? term := by
  obtain ⟨text, isParent⟩ := parent?_of_ne_nil inside
  refine ⟨_, q.links.getLast inside, isParent, (List.dropLast_concat_getLast inside).symm, ?_⟩
  rw [slot?, List.getLast?_eq_some_getLast inside, Option.bind_some]

/-- A singular query inserts into the one container that its parent leads to, if that takes the
    value. -/
theorem insert_of_frame {slot : Slot} (singular : ∀ term ∈ parent.links, term.isSingular = true)
    (isSlot : q.slot? = some slot) (isParent : q.parent? = some parent) {location : Location}
    {container : Json} {put : Json → Json} (frame : Term.Frame parent.links location put)
    (new : Json) :
    q.insert new (put container) =
      if slot.fits container then (1, put (slot.put new container)) else (0, put container) := by
  have inserted := insert_singular singular isSlot isParent new (put container)
  rw [frame.lead] at inserted
  dsimp only at inserted
  rw [inserted, Slot.fillAll, frame.update, Slot.fill?_eq]
  by_cases fits : slot.fits container = true
  · rw [if_pos fits, if_pos fits]
    rfl
  · rw [if_neg fits, if_neg fits]
    rfl

theorem takesBack_of_nowhere {new : Json} (inserted : q.insert new document = (0, document))
    (nowhere : parent.search document = []) : q.TakesBack parent new document where
  once := by simp [inserted]
  unchanged := by simp [inserted]
  found := by simp [inserted]
  removed := by simp [inserted]
  member := by simp [inserted, nowhere]
  item := by simp [inserted, nowhere]

theorem takesBack_of_frame {slot : Slot} {term : Term} (isSlot : Slot.ofTerm? term = some slot)
    (links : q.links = parent.links ++ [term])
    (singular : ∀ term ∈ q.links, term.isSingular = true) {location : Location} {container : Json}
    {put : Json → Json} (frame : Term.Frame parent.links location put) {new : Json}
    (inserted : q.insert new (put container) =
      if slot.fits container then (1, put (slot.put new container)) else (0, put container)) :
    q.TakesBack parent new (put container) := by
  obtain ⟨parentFinds, finds⟩ := search_of_lead links singular (frame.lead container)
  have last : q.links.getLast? = some term := by rw [links, List.getLast?_concat]
  have taken : (q.insert new (put container)).1 = 1 ↔ slot.fits container = true := by
    rw [inserted]
    split <;> simp_all
  exact {
    once := by
      rw [inserted]
      split <;> simp
    unchanged := by
      rw [inserted]
      split <;> simp
    found := by
      intro one
      rw [inserted, if_pos (taken.mp one)]
      exact (finds_and_removes isSlot links singular frame (taken.mp one) new).1
    removed := by
      intro one
      rw [inserted, if_pos (taken.mp one)]
      exact (finds_and_removes isSlot links singular frame (taken.mp one) new).2
    member := by
      intro name isName
      cases last.symm.trans isName
      cases isSlot
      rw [taken, Slot.fits_member_iff, parentFinds, finds]
      simp
    item := by
      intro index isIndex
      cases last.symm.trans isIndex
      cases isSlot
      rw [taken, Slot.fits_position_iff, parentFinds]
      simp }

/-- What a singular query inserts it finds again, alone, and takes out again. It inserts one value
    or none. -/
theorem insert_taken_back (singular : q.isSingular = true) (inside : q.links ≠ [])
    (sorted : document.Sorted) (new : Json) :
    ∃ parent, q.parent? = some parent ∧ q.TakesBack parent new document := by
  obtain ⟨parent, term, isParent, links, named⟩ := q.exists_parent inside
  have terms := links_of_isSingular singular
  have above : ∀ term ∈ parent.links, term.isSingular = true := fun term isTerm =>
    terms term (by rw [links]; exact List.mem_append_left [_] isTerm)
  have isLast : term.isSingular = true := terms term (by rw [links]; exact List.mem_concat_self)
  obtain ⟨slot, isSlot⟩ := Slot.exists_of_isSingular isLast
  refine ⟨parent, isParent, ?_⟩
  cases led : Term.lead? parent.links document with
  | none =>
      have inserted := insert_singular above (named.trans isSlot) isParent new document
      rw [led] at inserted
      refine takesBack_of_nowhere inserted ?_
      rw [search_singular above, led]
      rfl
  | some found =>
      obtain ⟨location, container⟩ := found
      obtain ⟨put, rfl, frame⟩ := Term.exists_frame sorted led
      exact takesBack_of_frame isSlot links terms frame
        (insert_of_frame above (named.trans isSlot) isParent frame new)

/-- The query `$.a[-1]`. -/
def lastItem : Query := ⟨[.name "a", .index (-1)], "$.a[-1]"⟩

/-- The document `{"a": [0, 1], "b": 2}`. -/
def itemsDocument : Json := .object [("a", .array [.int 0, .int 1]), ("b", .int 2)]

/-- What is put in at the last index stands behind the items that were there. -/
theorem insert_taken_back_last :
    lastItem.isSingular = true ∧ lastItem.links ≠ [] ∧ itemsDocument.Sorted ∧
      lastItem.insert .null itemsDocument =
        (1, .object [("a", .array [.int 0, .int 1, .null]), ("b", .int 2)]) ∧
      ∃ parent, lastItem.parent? = some parent ∧ lastItem.TakesBack parent .null itemsDocument := by
  have sorted : itemsDocument.Sorted := by
    refine ⟨List.pairwise_pair.mpr (by decide), ?_⟩
    simp [Json.Sorted, Json.SortedItems, Json.SortedMembers, Json.int]
  exact ⟨rfl, by decide, sorted, by cbv, insert_taken_back rfl (by decide) sorted .null⟩

end Query

end JsonQuery

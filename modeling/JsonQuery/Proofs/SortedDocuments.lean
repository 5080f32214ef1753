import Mathlib.Tactic
import JsonQuery.Location
import JsonQuery.Json.Reader

/-! # Sorted documents

Objects that have their members in order have every name once. Whatever is read is sorted, and so is
everything inside a sorted value.
-/

namespace JsonQuery.Json

theorem sortedItems_iff (items : List Json) : SortedItems items ↔ ∀ item ∈ items, item.Sorted := by
  induction items with
  | nil => simp [SortedItems]
  | cons item rest ih => simp [SortedItems, ih]

theorem sortedMembers_iff (members : List (String × Json)) :
    SortedMembers members ↔ ∀ member ∈ members, member.2.Sorted := by
  induction members with
  | nil => simp [SortedMembers]
  | cons member rest ih =>
      obtain ⟨name, value⟩ := member
      simp [SortedMembers, ih]

/-! ## Looking up and putting in members -/

theorem lookup_of_mem {members : List (String × Json)} (sorted : NamesSorted members)
    {name : String} {value : Json} (isMember : (name, value) ∈ members) :
    lookup name members = some value := by
  induction members with
  | nil => cases isMember
  | cons member rest ih =>
      obtain ⟨key, other⟩ := member
      simp only [NamesSorted, List.map_cons, List.pairwise_cons] at sorted
      obtain ⟨before, sortedRest⟩ := sorted
      rcases List.mem_cons.mp isMember with same | inRest
      · cases same
        simp [lookup]
      · have less : key < name := before name (List.mem_map.mpr ⟨(name, value), inRest, rfl⟩)
        have different : key ≠ name := by
          rintro rfl
          exact String.lt_irrefl key less
        rw [lookup, if_neg different]
        exact ih sortedRest inRest

theorem mem_of_lookup {members : List (String × Json)} {name : String} {value : Json}
    (found : lookup name members = some value) : (name, value) ∈ members := by
  induction members with
  | nil => cases found
  | cons member rest ih =>
      obtain ⟨key, other⟩ := member
      rw [lookup] at found
      split at found
      · next same =>
          cases same
          cases found
          exact List.mem_cons_self
      · exact List.mem_cons_of_mem _ (ih found)

theorem eq_or_mem_of_mem_insertMember {name : String} {value : Json}
    {members : List (String × Json)} {member : String × Json}
    (isMember : member ∈ insertMember name value members) :
    member = (name, value) ∨ member ∈ members := by
  induction members with
  | nil => exact .inl (List.mem_singleton.mp isMember)
  | cons first rest ih =>
      obtain ⟨key, old⟩ := first
      rw [insertMember] at isMember
      split at isMember
      · exact List.mem_cons.mp isMember
      · split at isMember
        · next same =>
            subst same
            exact (List.mem_cons.mp isMember).imp id (List.mem_cons_of_mem _)
        · rcases List.mem_cons.mp isMember with same | inRest
          · exact .inr (same ▸ List.mem_cons_self)
          · exact (ih inRest).imp id (List.mem_cons_of_mem _)

theorem NamesSorted.insertMember {members : List (String × Json)} (sorted : NamesSorted members)
    (name : String) (value : Json) : NamesSorted (insertMember name value members) := by
  induction members with
  | nil => simp [NamesSorted, Json.insertMember]
  | cons first rest ih =>
      obtain ⟨key, old⟩ := first
      simp only [NamesSorted, List.map_cons, List.pairwise_cons] at sorted ih
      obtain ⟨before, sortedRest⟩ := sorted
      rw [Json.insertMember]
      split
      · next less =>
          simp only [NamesSorted, List.map_cons, List.pairwise_cons]
          refine ⟨fun other isOther => ?_, before, sortedRest⟩
          rcases List.mem_cons.mp isOther with rfl | inRest
          · exact less
          · exact String.lt_trans less (before other inRest)
      · next notLess =>
          split
          · next same =>
              subst same
              simp only [NamesSorted, List.map_cons, List.pairwise_cons]
              exact ⟨before, sortedRest⟩
          · next different =>
              simp only [NamesSorted, List.map_cons, List.pairwise_cons]
              refine ⟨fun other isOther => ?_, ih sortedRest⟩
              obtain ⟨member, isMember, rfl⟩ := List.mem_map.mp isOther
              rcases eq_or_mem_of_mem_insertMember isMember with rfl | inRest
              · refine String.not_le.mp fun less => ?_
                exact different (String.le_antisymm less (String.not_lt.mp notLess))
              · exact before _ (List.mem_map_of_mem inRest)

theorem SortedMembers.insertMember {members : List (String × Json)} (sorted : SortedMembers members)
    (name : String) {value : Json} (sortedValue : value.Sorted) :
    SortedMembers (insertMember name value members) := by
  refine (sortedMembers_iff _).mpr fun member isMember => ?_
  rcases eq_or_mem_of_mem_insertMember isMember with rfl | isOld
  · exact sortedValue
  · exact (sortedMembers_iff members).mp sorted member isOld

/-! ## Values inside -/

theorem Sorted.child {value inner : Json} {key : Key} (sorted : value.Sorted)
    (found : value.child? key = some inner) : inner.Sorted := by
  cases value with
  | array items =>
      cases key with
      | index index => exact (sortedItems_iff items).mp sorted inner (List.mem_of_getElem? found)
      | name name => cases found
  | object members =>
      cases key with
      | index index => cases found
      | name name => exact (sortedMembers_iff members).mp sorted.2 _ (mem_of_lookup found)
  | _ => cases found

theorem Sorted.at {value inner : Json} {location : Location} (sorted : value.Sorted)
    (found : value.at? location = some inner) : inner.Sorted := by
  induction location generalizing value with
  | nil =>
      cases found
      exact sorted
  | cons key rest ih =>
      rw [at?] at found
      split at found
      · next child isChild => exact ih (sorted.child isChild) found
      · cases found

/-! ## Documents that were read -/

namespace Reader

theorem sorted_of_word? {word : String} {value read : Json} {text rest : List Char}
    (isWord : word? word value text = some (read, rest)) (sorted : value.Sorted) : read.Sorted := by
  obtain ⟨after, _, same⟩ := Option.map_eq_some_iff.mp isWord
  cases same
  exact sorted

mutual
theorem sorted_of_value? (fuel : Nat) {depth : Nat} {text rest : List Char} {value : Json}
    (read : value? fuel depth text = some (value, rest)) : value.Sorted := by
  cases fuel with
  | zero => cases read
  | succ fuel =>
      rw [value?] at read
      split at read
      · exact sorted_of_word? read trivial
      · exact sorted_of_word? read trivial
      · exact sorted_of_word? read trivial
      · obtain ⟨found, _, same⟩ := Option.map_eq_some_iff.mp read
        cases same
        trivial
      · split at read
        · cases read
        · split at read
          · cases read
            trivial
          · exact sorted_of_items? fuel (fun item isItem => absurd isItem List.not_mem_nil) read
      · split at read
        · cases read
        · split at read
          · cases read
            exact ⟨List.Pairwise.nil, trivial⟩
          · have empty : (object []).Sorted := ⟨List.Pairwise.nil, trivial⟩
            exact sorted_of_members? fuel empty read
      · obtain ⟨found, _, same⟩ := Option.map_eq_some_iff.mp read
        cases same
        trivial
termination_by fuel

theorem sorted_of_items? (fuel : Nat) {depth : Nat} {done : List Json} {text rest : List Char}
    {value : Json} (sortedDone : ∀ item ∈ done, item.Sorted)
    (read : items? fuel depth done text = some (value, rest)) : value.Sorted := by
  cases fuel with
  | zero => cases read
  | succ fuel =>
      rw [items?] at read
      split at read
      · cases read
      · next item after isItem =>
          have sortedItem := sorted_of_value? fuel isItem
          have sortedNext : ∀ other ∈ item :: done, other.Sorted :=
            List.forall_mem_cons.mpr ⟨sortedItem, sortedDone⟩
          split at read
          · exact sorted_of_items? fuel sortedNext read
          · cases read
            refine (sortedItems_iff _).mpr fun other isOther => ?_
            exact sortedNext other (List.mem_reverse.mp isOther)
          · cases read
termination_by fuel

theorem sorted_of_members? (fuel : Nat) {depth : Nat} {done : List (String × Json)}
    {text rest : List Char} {value : Json} (sortedDone : (object done).Sorted)
    (read : members? fuel depth done text = some (value, rest)) : value.Sorted := by
  cases fuel with
  | zero => cases read
  | succ fuel =>
      rw [members?] at read
      split at read
      · split at read
        · cases read
        · next name after isName =>
            split at read
            · split at read
              · cases read
              · next inner after isValue =>
                  have sortedNext : (object (insertMember name inner done)).Sorted :=
                    ⟨sortedDone.1.insertMember name inner,
                      sortedDone.2.insertMember name (sorted_of_value? fuel isValue)⟩
                  simp only at read
                  split at read
                  · exact sorted_of_members? fuel sortedNext read
                  · cases read
                    exact sortedNext
                  · cases read
            · cases read
      · cases read
termination_by fuel
end

end Reader

theorem sorted_of_parse? {depth : Nat} {text : String} {document : Json}
    (read : parse? depth text = some document) : document.Sorted := by
  simp only [parse?] at read
  split at read
  · next isValue =>
      split at read
      · cases read
        exact Reader.sorted_of_value? _ isValue
      · cases read
  · cases read

end JsonQuery.Json

import Mathlib.Data.String.Basic
import JsonQuery.Json.Comparison
import JsonQuery.Proofs.NumberOrder
import JsonQuery.Proofs.SortedDocuments

/-! # The laws of comparison

Equality of objects asks for every member of the left one in the right one, and for as many members
in both. Since every name occurs once and the names are in order, this pairs the members off one by
one, as equality of arrays does with the items, and so equality is symmetric through all levels.
-/

namespace JsonQuery

/-! ## Pairing off -/

section Pairs

variable {α β γ : Type} {as : List α} {bs : List β} {cs : List γ} {R : α → β → Prop}
  {S : β → γ → Prop} {T : α → γ → Prop} {U : β → α → Prop}

theorem forall₂_swap (step : ∀ a ∈ as, ∀ b ∈ bs, R a b → U b a) (pairs : List.Forall₂ R as bs) :
    List.Forall₂ U bs as := by
  induction pairs with
  | nil => exact .nil
  | cons related _ ih =>
      refine .cons (step _ List.mem_cons_self _ List.mem_cons_self related) (ih ?_)
      exact fun a isA b isB => step a (List.mem_cons_of_mem _ isA) b (List.mem_cons_of_mem _ isB)

theorem forall₂_trans (step : ∀ a ∈ as, ∀ b ∈ bs, ∀ c ∈ cs, R a b → S b c → T a c)
    (first : List.Forall₂ R as bs) (second : List.Forall₂ S bs cs) : List.Forall₂ T as cs := by
  induction first generalizing cs with
  | nil =>
      cases second
      exact .nil
  | cons related _ ih =>
      cases second with
      | cons related' second =>
          refine .cons (step _ List.mem_cons_self _ List.mem_cons_self _ List.mem_cons_self
            related related') (ih ?_ second)
          exact fun a isA b isB c isC => step a (List.mem_cons_of_mem _ isA) b
            (List.mem_cons_of_mem _ isB) c (List.mem_cons_of_mem _ isC)

end Pairs

namespace Json

/-! ## Induction on the nesting -/

/-- The items or the values of the members. -/
def parts : Json → List Json
  | .array items => items
  | .object members => members.map Prod.snd
  | _ => []

theorem sizeOf_parts {value part : Json} (isPart : part ∈ value.parts) :
    sizeOf part < sizeOf value := by
  cases value with
  | array items =>
      have small : sizeOf part < sizeOf items := List.sizeOf_lt_of_mem isPart
      simp only [Json.array.sizeOf_spec]
      omega
  | object members =>
      obtain ⟨member, isMember, rfl⟩ := List.mem_map.mp isPart
      obtain ⟨name, inner⟩ := member
      have small := List.sizeOf_lt_of_mem isMember
      simp only [Json.object.sizeOf_spec, Prod.mk.sizeOf_spec] at small ⊢
      omega
  | _ => cases isPart

theorem nested_induction {motive : Json → Prop}
    (step : ∀ value, (∀ part ∈ value.parts, motive part) → motive value) (value : Json) :
    motive value :=
  step value fun part _ => nested_induction step part
termination_by sizeOf value
decreasing_by exact sizeOf_parts ‹_›

theorem Sorted.item {items : List Json} (sorted : (array items).Sorted) :
    ∀ item ∈ items, item.Sorted :=
  (sortedItems_iff items).mp sorted

theorem Sorted.member {members : List (String × Json)} (sorted : (object members).Sorted) :
    ∀ member ∈ members, member.2.Sorted :=
  (sortedMembers_iff members).mp sorted.2

/-! ## Equality of containers -/

/-- Two members have one name and equal values. -/
def EqualMembers (a b : String × Json) : Prop := a.1 = b.1 ∧ a.2.equal b.2 = true

theorem equalItems_iff (as bs : List Json) :
    equalItems as bs = true ↔ List.Forall₂ (fun a b => a.equal b = true) as bs := by
  induction as generalizing bs with
  | nil => cases bs <;> simp [equalItems]
  | cons a as ih =>
      cases bs with
      | nil => simp [equalItems]
      | cons b bs => simp [equalItems, ih]

theorem equalMembers_iff (as bs : List (String × Json)) :
    equalMembers as bs = true ↔
      ∀ member ∈ as, ∃ value, lookup member.1 bs = some value ∧ member.2.equal value = true := by
  induction as with
  | nil => simp [equalMembers]
  | cons member as ih =>
      obtain ⟨name, a⟩ := member
      rw [equalMembers, Bool.and_eq_true, ih, List.forall_mem_cons]
      refine and_congr_left' ?_
      cases lookup name bs <;> simp

theorem names_eq {as bs : List (String × Json)} (sortedLeft : NamesSorted as)
    (sortedRight : NamesSorted bs) (size : as.length = bs.length)
    (found : ∀ member ∈ as, ∃ value, lookup member.1 bs = some value) :
    as.map Prod.fst = bs.map Prod.fst := by
  have distinct : (as.map Prod.fst).Nodup := by
    refine List.Pairwise.imp (fun {first second} less => ?_) sortedLeft
    rintro rfl
    exact String.lt_irrefl first less
  have inside : as.map Prod.fst ⊆ bs.map Prod.fst := by
    intro name isName
    obtain ⟨member, isMember, rfl⟩ := List.mem_map.mp isName
    obtain ⟨value, isValue⟩ := found member isMember
    exact List.mem_map.mpr ⟨(member.1, value), mem_of_lookup isValue, rfl⟩
  have perm : (as.map Prod.fst).Perm (bs.map Prod.fst) :=
    (List.subperm_of_subset distinct inside).perm_of_length_le (by simp [size])
  exact List.Perm.eq_of_pairwise (fun a b _ _ less more => absurd (String.lt_trans less more)
    (String.lt_irrefl a)) sortedLeft sortedRight perm

/-- Equality of objects pairs their members off. -/
theorem equal_object_iff {as bs : List (String × Json)} (sortedLeft : NamesSorted as)
    (sortedRight : NamesSorted bs) :
    (object as).equal (object bs) = true ↔ List.Forall₂ EqualMembers as bs := by
  rw [equal, Bool.and_eq_true, beq_iff_eq, equalMembers_iff, List.forall₂_iff_get]
  refine and_congr_right fun size => ⟨fun found => ?_, fun pairs => ?_⟩
  · have names := names_eq sortedLeft sortedRight size fun member isMember =>
      (found member isMember).imp fun _ => And.left
    intro index inLeft inRight
    have sameName : as[index].1 = bs[index].1 := by
      have := congrArg (·[index]?) names
      simpa [inLeft, inRight] using this
    obtain ⟨value, isValue, same⟩ := found as[index] (List.getElem_mem inLeft)
    have direct : lookup bs[index].1 bs = some bs[index].2 :=
      lookup_of_mem sortedRight (List.getElem_mem inRight)
    rw [sameName, direct] at isValue
    cases isValue
    exact ⟨sameName, same⟩
  · intro member isMember
    obtain ⟨index, inLeft, rfl⟩ := List.mem_iff_getElem.mp isMember
    have inRight : index < bs.length := size ▸ inLeft
    obtain ⟨sameName, same⟩ := pairs index inLeft inRight
    refine ⟨bs[index].2, ?_, same⟩
    rw [show as[index].1 = bs[index].1 from sameName]
    exact lookup_of_mem sortedRight (List.getElem_mem inRight)

/-! ## Equality of values -/

/-- The ways in which two values are equal. -/
inductive Equated : Json → Json → Prop where
  | null : Equated .null .null
  | bool (value : Bool) : Equated (.bool value) (.bool value)
  | number {a b : Number} (order : a.cmp b = .eq) : Equated (.number a) (.number b)
  | string (value : String) : Equated (.string value) (.string value)
  | array {as bs : List Json} (pairs : List.Forall₂ (fun a b => a.equal b = true) as bs) :
      Equated (.array as) (.array bs)
  | object {as bs : List (String × Json)} (pairs : List.Forall₂ EqualMembers as bs) :
      Equated (.object as) (.object bs)

variable {a b c : Json}

theorem equal_iff (aSorted : a.Sorted) (bSorted : b.Sorted) : a.equal b = true ↔ Equated a b := by
  constructor
  · intro same
    cases a with
    | null => cases b <;> first | exact .null | cases same
    | bool value =>
        cases b with
        | bool other =>
            obtain rfl : value = other := by simpa [equal] using same
            exact .bool value
        | _ => cases same
    | number value =>
        cases b with
        | number other => exact .number (by simpa [equal] using same)
        | _ => cases same
    | string value =>
        cases b with
        | string other =>
            obtain rfl : value = other := by simpa [equal] using same
            exact .string value
        | _ => cases same
    | array as =>
        cases b with
        | array bs => exact .array ((equalItems_iff as bs).mp same)
        | _ => cases same
    | object as =>
        cases b with
        | object bs => exact .object ((equal_object_iff aSorted.1 bSorted.1).mp same)
        | _ => cases same
  · intro equated
    cases equated with
    | null => rfl
    | bool value => simp [equal]
    | number order => simp [equal, order]
    | string value => simp [equal]
    | array pairs => exact (equalItems_iff _ _).mpr pairs
    | object pairs => exact (equal_object_iff aSorted.1 bSorted.1).mpr pairs

theorem mem_parts_of_mem {members : List (String × Json)} {member : String × Json}
    (isMember : member ∈ members) : member.2 ∈ (object members).parts :=
  List.mem_map_of_mem isMember

theorem equal_self (sorted : a.Sorted) : a.equal a = true := by
  induction a using nested_induction with
  | step value ih =>
      rw [equal_iff sorted sorted]
      cases value with
      | null => exact .null
      | bool value => exact .bool value
      | number value => exact .number value.cmp_self
      | string value => exact .string value
      | array items =>
          refine .array (List.forall₂_same.mpr fun item isItem => ?_)
          exact ih item isItem (sorted.item item isItem)
      | object members =>
          refine .object (List.forall₂_same.mpr fun member isMember => ⟨rfl, ?_⟩)
          exact ih member.2 (mem_parts_of_mem isMember) (sorted.member member isMember)

theorem equal_symm (aSorted : a.Sorted) (bSorted : b.Sorted) (same : a.equal b = true) :
    b.equal a = true := by
  induction a using nested_induction generalizing b with
  | step value ih =>
      rw [equal_iff aSorted bSorted] at same
      rw [equal_iff bSorted aSorted]
      cases same with
      | null => exact .null
      | bool value => exact .bool value
      | number order =>
          refine .number ?_
          rw [← Number.cmp_swap, order]
          rfl
      | string value => exact .string value
      | array pairs =>
          refine .array (forall₂_swap (fun item isItem other isOther same => ?_) pairs)
          exact ih item isItem (aSorted.item item isItem) (bSorted.item other isOther) same
      | object pairs =>
          refine .object (forall₂_swap (fun member isMember other isOther same => ?_) pairs)
          exact ⟨same.1.symm, ih member.2 (mem_parts_of_mem isMember)
            (aSorted.member member isMember) (bSorted.member other isOther) same.2⟩

theorem equal_comm (aSorted : a.Sorted) (bSorted : b.Sorted) : a.equal b = b.equal a :=
  Bool.eq_iff_iff.mpr ⟨equal_symm aSorted bSorted, equal_symm bSorted aSorted⟩

end Json

namespace Operator

/-! ## The order of operands -/

variable {a b c : Option Json}

/-- Two numbers or two strings. -/
inductive Ordered : Option Json → Option Json → Prop where
  | numbers (a b : Number) : Ordered (some (.number a)) (some (.number b))
  | strings (a b : String) : Ordered (some (.string a)) (some (.string b))

/-- The order of two numbers or two strings. -/
def order? : Option Json → Option Json → Option Ordering
  | some (.number a), some (.number b) => some (a.cmp b)
  | some (.string a), some (.string b) => some (cmp a b)
  | _, _ => none

theorem ordered_iff : Ordered a b ↔ ∃ order, order? a b = some order := by
  constructor
  · rintro (⟨a, b⟩ | ⟨a, b⟩)
    · exact ⟨_, rfl⟩
    · exact ⟨_, rfl⟩
  · rintro ⟨order, isOrder⟩
    unfold order? at isOrder
    split at isOrder
    · exact .numbers _ _
    · exact .strings _ _
    · cases isOrder

theorem order?_swap (a b : Option Json) : order? b a = (order? a b).map Ordering.swap := by
  cases isOrder : order? a b with
  | some order =>
      obtain ⟨a, b⟩ | ⟨a, b⟩ := ordered_iff.mpr ⟨order, isOrder⟩
      · cases isOrder
        exact congrArg some (Number.cmp_swap a b).symm
      · cases isOrder
        exact congrArg some (cmp_swap a b).symm
  | none =>
      cases other : order? b a with
      | none => rfl
      | some order =>
          obtain ⟨a, b⟩ | ⟨a, b⟩ := ordered_iff.mpr ⟨order, other⟩
          · cases isOrder
          · cases isOrder

theorem ordered_of_less (less : operandsLess a b = true) : Ordered a b := by
  cases a with
  | none => cases less
  | some a =>
      cases b with
      | none => cases less
      | some b =>
          rw [operandsLess, Json.less.eq_def] at less
          split at less
          · exact .numbers _ _
          · exact .strings _ _
          · cases less

theorem operandsLess_iff : operandsLess a b = true ↔ order? a b = some .lt := by
  cases isOrder : order? a b with
  | none =>
      refine iff_of_false (fun less => ?_) (by simp)
      obtain ⟨order, isSome⟩ := ordered_iff.mp (ordered_of_less less)
      cases isOrder.symm.trans isSome
  | some order =>
      obtain ⟨a, b⟩ | ⟨a, b⟩ := ordered_iff.mpr ⟨order, isOrder⟩
      · cases isOrder
        rw [operandsLess, Json.less, beq_iff_eq, Option.some.injEq]
      · cases isOrder
        rw [operandsLess, Json.less, decide_eq_true_eq, Option.some.injEq, cmp_eq_lt_iff]

theorem operandsEqual_of_order? {order : Ordering} (isOrder : order? a b = some order) :
    operandsEqual a b = true ↔ order = .eq := by
  obtain ⟨a, b⟩ | ⟨a, b⟩ := ordered_iff.mpr ⟨order, isOrder⟩
  · cases isOrder
    rw [operandsEqual, Json.equal, beq_iff_eq]
  · cases isOrder
    rw [operandsEqual, Json.equal, beq_iff_eq, cmp_eq_eq_iff]

theorem order?_trans (first : order? a b = some .lt) (second : order? b c = some .lt) :
    order? a c = some .lt := by
  obtain ⟨a, b⟩ | ⟨a, b⟩ := ordered_iff.mpr ⟨_, first⟩
  · obtain ⟨_, c⟩ | _ := ordered_iff.mpr ⟨_, second⟩
    have less : a.cmp b = .lt := Option.some.inj first
    have more : b.cmp c = .lt := Option.some.inj second
    exact congrArg some (Number.cmp_lt_trans less more)
  · obtain _ | ⟨_, c⟩ := ordered_iff.mpr ⟨_, second⟩
    have less : a < b := (cmp_eq_lt_iff a b).mp (Option.some.inj first)
    have more : b < c := (cmp_eq_lt_iff b c).mp (Option.some.inj second)
    exact congrArg some ((cmp_eq_lt_iff a c).mpr (less.trans more))

theorem operandsEqual_self (sorted : ∀ value ∈ a, value.Sorted) : operandsEqual a a = true := by
  cases a with
  | none => rfl
  | some a => exact Json.equal_self (sorted a rfl)

theorem operandsEqual_comm (aSorted : ∀ value ∈ a, value.Sorted)
    (bSorted : ∀ value ∈ b, value.Sorted) : operandsEqual a b = operandsEqual b a := by
  cases a with
  | none => cases b <;> rfl
  | some a =>
      cases b with
      | none => rfl
      | some b => exact Json.equal_comm (aSorted a rfl) (bSorted b rfl)

/-- What users may rely on when they compare operands. -/
structure Lawful (a b c : Option Json) : Prop where
  equal_self : compare .eq a a = true
  equal_comm : compare .eq a b = compare .eq b a
  not_less_self : compare .lt a a = false
  less_asymm : compare .lt a b = true → compare .lt b a = false
  less_trans : compare .lt a b = true → compare .lt b c = true → compare .lt a c = true
  not_less_and_equal : ¬(compare .lt a b = true ∧ compare .eq a b = true)
  /-- Of two numbers or two strings exactly one of the three holds. -/
  ordered : Ordered a b → ∃ order : Ordering, (compare .lt a b = true ↔ order = .lt) ∧
    (compare .eq a b = true ↔ order = .eq) ∧ (compare .gt a b = true ↔ order = .gt)
  unordered : ¬Ordered a b → compare .lt a b = false ∧ compare .gt a b = false ∧
    compare .le a b = compare .eq a b ∧ compare .ge a b = compare .eq a b

theorem operandsLess_eq_false (other : order? a b ≠ some .lt) : operandsLess a b = false :=
  Bool.eq_false_iff.mpr fun less => other (operandsLess_iff.mp less)

/-- Comparison is lawful for all operands, nested or absent, whatever the forms of their numbers, and
    integers are compared exactly. -/
theorem compare_lawful (aSorted : ∀ value ∈ a, value.Sorted) (bSorted : ∀ value ∈ b, value.Sorted)
    (c : Option Json) :
    Lawful a b c ∧ ∀ x y, Number.IsHeld x → Number.IsHeld y →
      (Number.int x).cmp (.int y) = Ord.compare x y := by
  refine ⟨?_, fun x y => Number.cmp_int⟩
  exact {
    equal_self := operandsEqual_self aSorted
    equal_comm := operandsEqual_comm aSorted bSorted
    not_less_self := by
      refine operandsLess_eq_false fun isOrder => ?_
      cases (operandsEqual_of_order? isOrder).mp (operandsEqual_self aSorted)
    less_asymm := by
      intro less
      refine operandsLess_eq_false ?_
      rw [order?_swap, operandsLess_iff.mp less]
      decide
    less_trans := by
      intro first second
      exact operandsLess_iff.mpr
        (order?_trans (operandsLess_iff.mp first) (operandsLess_iff.mp second))
    not_less_and_equal := by
      rintro ⟨less, same⟩
      cases (operandsEqual_of_order? (operandsLess_iff.mp less)).mp same
    ordered := by
      intro ordered
      obtain ⟨order, isOrder⟩ := ordered_iff.mp ordered
      refine ⟨order, ?_, operandsEqual_of_order? isOrder, ?_⟩
      · rw [compare, operandsLess_iff, isOrder, Option.some.injEq]
      · rw [compare, operandsLess_iff, order?_swap, isOrder]
        cases order <;> decide
    unordered := by
      intro notOrdered
      have left : operandsLess a b = false :=
        operandsLess_eq_false fun isOrder => notOrdered (ordered_iff.mpr ⟨_, isOrder⟩)
      have right : operandsLess b a = false := by
        refine operandsLess_eq_false fun isOrder => notOrdered (ordered_iff.mpr ⟨.gt, ?_⟩)
        rw [order?_swap, isOrder]
        rfl
      simp [compare, left, right] }

/-- The value `{"a": [1, null]}`. -/
def exactForm : Json := .object [("a", .array [.int 1, .null])]

/-- The value `{"a": [1.0, null]}`. -/
def doubleForm : Json := .object [("a", .array [.number (.float (.ofInt 1)), .null])]

theorem compare_lawful_forms :
    (∀ value ∈ some exactForm, value.Sorted) ∧ (∀ value ∈ some doubleForm, value.Sorted) ∧
      compare .eq (some exactForm) (some doubleForm) = true ∧
      Lawful (some exactForm) (some doubleForm) none ∧
      Number.IsHeld (-1) ∧ Number.IsHeld 9223372036854775808 ∧
      (Number.int (-1)).cmp (.int 9223372036854775808) = Ord.compare (-1) 9223372036854775808 := by
  have exactSorted : ∀ value ∈ some exactForm, value.Sorted := by
    rintro _ ⟨⟩
    simp [exactForm, Json.Sorted, Json.SortedItems, Json.SortedMembers, Json.NamesSorted, Json.int]
  have doubleSorted : ∀ value ∈ some doubleForm, value.Sorted := by
    rintro _ ⟨⟩
    simp [doubleForm, Json.Sorted, Json.SortedItems, Json.SortedMembers, Json.NamesSorted]
  have least : Number.IsHeld (-1) := by decide
  have large : Number.IsHeld 9223372036854775808 := by decide
  obtain ⟨lawful, integers⟩ := compare_lawful exactSorted doubleSorted none
  exact ⟨exactSorted, doubleSorted, by decide +kernel, lawful, least, large,
    integers _ _ least large⟩

end Operator

end JsonQuery

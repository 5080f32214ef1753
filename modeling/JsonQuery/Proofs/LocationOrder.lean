import Mathlib.Tactic
import JsonQuery.Location

/-! # The order of locations

Locations are compared like words, so that a location comes before all that lie below it, and before
all that lie in or below a later item of the same array. Working through locations in descending
order therefore never touches the way to one that is still to come.
-/

namespace JsonQuery

/-! ## Keys -/

theorem Key.cmp_eq_swap (a b : Key) : a.cmp b = (b.cmp a).swap := by
  cases a with
  | name a =>
      cases b with
      | name b => exact Std.OrientedOrd.eq_swap
      | index b => rfl
  | index a =>
      cases b with
      | name b => rfl
      | index b => exact Std.OrientedOrd.eq_swap

theorem Key.isLE_trans {a b c : Key} (ab : (a.cmp b).isLE = true) (bc : (b.cmp c).isLE = true) :
    (a.cmp c).isLE = true := by
  cases a <;> cases b <;> cases c <;> simp only [Key.cmp] at ab bc ⊢ <;>
    first
      | exact Std.TransOrd.isLE_trans ab bc
      | exact absurd ab (by decide)
      | exact absurd bc (by decide)
      | rfl

instance : Std.TransCmp Key.cmp where
  eq_swap {a b} := Key.cmp_eq_swap a b
  isLE_trans := Key.isLE_trans

instance : Std.LawfulEqCmp Key.cmp where
  compare_self {a} := by cases a <;> exact Std.ReflCmp.compare_self
  eq_of_compare {a b} same := by
    cases a <;> cases b <;> simp only [Key.cmp, reduceCtorEq] at same <;>
      exact congrArg _ (Std.LawfulEqCmp.eq_of_compare same)

/-! ## Locations -/

theorem Location.cmp_eq_compareLex (a b : Location) : Location.cmp a b = List.compareLex Key.cmp a b := by
  induction a generalizing b with
  | nil => cases b <;> rfl
  | cons key rest ih =>
      cases b with
      | nil => rfl
      | cons key' rest' => rw [Location.cmp, ih, List.compareLex_cons_cons]

instance : Std.TransCmp Location.cmp := by
  have same : Location.cmp = List.compareLex Key.cmp := by
    funext a b
    exact Location.cmp_eq_compareLex a b
  rw [same]
  infer_instance

instance : Std.LawfulEqCmp Location.cmp := by
  have same : Location.cmp = List.compareLex Key.cmp := by
    funext a b
    exact Location.cmp_eq_compareLex a b
  rw [same]
  infer_instance

namespace Location

def Before (a b : Location) : Prop := Location.cmp a b = .lt

theorem Before.trans {a b c : Location} (ab : Before a b) (bc : Before b c) : Before a c :=
  Std.TransCmp.lt_trans ab bc

theorem Before.ne {a b : Location} (before : Before a b) : a ≠ b := by
  rintro rfl
  have same : Location.cmp a a = .eq := Std.ReflCmp.compare_self
  rw [Before, same] at before
  cases before

theorem not_before_nil (a : Location) : ¬Before a [] := by
  cases a <;> simp [Before, Location.cmp]

theorem before_cons {key key' : Key} {rest rest' : Location} :
    Before (key :: rest) (key' :: rest') ↔ key.cmp key' = .lt ∨ key = key' ∧ Before rest rest' := by
  rw [Before, Location.cmp, Ordering.then_eq_lt, Std.LawfulEqCmp.compare_eq_iff_eq]
  rfl

theorem before_append (location : Location) {below : Location} (nonempty : below ≠ []) :
    Before location (location ++ below) := by
  induction location with
  | nil =>
      cases below with
      | nil => exact absurd rfl nonempty
      | cons key rest => rfl
  | cons key rest ih => exact before_cons.mpr (.inr ⟨rfl, ih⟩)

theorem descending_perm (locations : List Location) : (descending locations).Perm locations :=
  List.mergeSort_perm locations precedes

/-- Different locations in descending order: each comes before those that stand in front of it. -/
theorem pairwise_descending {locations : List Location} (different : locations.Nodup) :
    (descending locations).Pairwise fun a b => Before b a := by
  have sorted : (descending locations).Pairwise fun a b => precedes a b = true := by
    refine List.pairwise_mergeSort ?_ ?_ locations
    · intro a b c ab bc
      simp only [precedes, bne_iff_ne, ne_eq, ← Ordering.isLE_iff_ne_gt] at ab bc ⊢
      exact Std.TransCmp.isLE_trans bc ab
    · intro a b
      simp only [precedes, Bool.or_eq_true, bne_iff_ne, ne_eq]
      have swap : Location.cmp a b = (Location.cmp b a).swap := Std.OrientedCmp.eq_swap
      rw [swap]
      cases Location.cmp b a <;> decide
  have nodup : (descending locations).Nodup := (descending_perm locations).nodup_iff.mpr different
  refine (sorted.and nodup).imp ?_
  rintro a b ⟨le, ne⟩
  simp only [precedes, bne_iff_ne, ne_eq] at le
  rw [Before]
  cases order : Location.cmp b a with
  | lt => rfl
  | eq => exact absurd (Std.LawfulEqCmp.eq_of_compare order).symm ne
  | gt => exact absurd order le

end Location

end JsonQuery

import Mathlib.Tactic
import JsonQuery.Pattern.Matcher

/-! # What the matcher finds

A pattern relates the positions of a text: it leads from one position to another if it matches what
stands between them. The matcher takes the marks of some positions to the marks of all positions
that these are related to, so it finds a match exactly if there is one.
-/

namespace JsonQuery.Pattern

/-- `count` steps from one position to another. -/
inductive Times (step : Nat → Nat → Prop) : Nat → Nat → Nat → Prop where
  | zero (first : Nat) : Times step 0 first first
  | succ {count first between last : Nat} (one : step first between)
      (more : Times step count between last) : Times step (count + 1) first last

def charBefore (text : List Char) (position : Nat) : Option Char :=
  if position = 0 then none else text[position - 1]?

/-- A pattern matches what stands between two positions of a text. A limit of repetitions counts as
    no less than the number that is asked for. -/
def Spans (text : List Char) : Pattern → Nat → Nat → Prop
  | .empty => fun first last => first = last
  | .set points => fun first last =>
      ∃ c, text[first]? = some c ∧ points.contains c.toNat = true ∧ last = first + 1
  | .look condition => fun first last =>
      first ≤ text.length ∧ condition.holds (charBefore text first) text[first]? = true ∧
        first = last
  | .seq one two => fun first last =>
      ∃ between, Spans text one first between ∧ Spans text two between last
  | .either one two => fun first last => Spans text one first last ∨ Spans text two first last
  | .repetition least most body => fun first last =>
      ∃ count, least ≤ count ∧ (∀ limit ∈ most, count ≤ max least limit) ∧
        Times (Spans text body) count first last
  | .group body => Spans text body

/-! ## Steps -/

namespace Times

variable {step step' : Nat → Nat → Prop} {count first last : Nat}

theorem zero_iff : Times step 0 first last ↔ first = last := by
  constructor
  · rintro ⟨⟩
    rfl
  · rintro rfl
    exact .zero first

theorem succ_iff : Times step (count + 1) first last ↔
    ∃ between, step first between ∧ Times step count between last := by
  constructor
  · rintro ⟨⟩
    next between one more => exact ⟨between, one, more⟩
  · rintro ⟨between, one, more⟩
    exact .succ one more

theorem append {between count' : Nat} (one : Times step count first between)
    (more : Times step count' between last) : Times step (count + count') first last := by
  induction one with
  | zero => rwa [Nat.zero_add]
  | @succ count _ _ _ one _ ih =>
      rw [Nat.add_right_comm]
      exact .succ one (ih more)

theorem add_iff {count' : Nat} : Times step (count + count') first last ↔
    ∃ between, Times step count first between ∧ Times step count' between last := by
  constructor
  · intro all
    induction count generalizing first with
    | zero => exact ⟨first, .zero first, by rwa [Nat.zero_add] at all⟩
    | succ count ih =>
        rw [Nat.add_right_comm] at all
        obtain ⟨between, one, more⟩ := succ_iff.mp all
        obtain ⟨next, done, rest⟩ := ih more
        exact ⟨next, .succ one done, rest⟩
  · rintro ⟨between, one, more⟩
    exact one.append more

theorem lazy_iff : Times (fun first last => first = last ∨ step first last) count first last ↔
    ∃ fewer ≤ count, Times step fewer first last := by
  constructor
  · intro all
    induction all with
    | zero first => exact ⟨0, le_rfl, .zero first⟩
    | succ one _ ih =>
        obtain ⟨fewer, le, steps⟩ := ih
        rcases one with rfl | one
        · exact ⟨fewer, le.trans (Nat.le_succ _), steps⟩
        · exact ⟨fewer + 1, Nat.succ_le_succ le, .succ one steps⟩
  · rintro ⟨fewer, le, steps⟩
    induction steps generalizing count with
    | zero first =>
        clear le
        induction count with
        | zero => exact .zero first
        | succ count ih => exact .succ (.inl rfl) ih
    | succ one _ ih =>
        cases count with
        | zero => exact absurd le (Nat.not_succ_le_zero _)
        | succ count => exact .succ (.inr one) (ih (Nat.le_of_succ_le_succ le))

end Times

/-! ## Marks -/

def IsMarked (marks : Marks) (position : Nat) : Prop := marks[position]? = some true

theorem IsMarked.lt {marks : Marks} {position : Nat} (marked : IsMarked marks position) :
    position < marks.length := (List.getElem?_eq_some_iff.mp marked).1

/-- Marks of equally many positions are told apart by what they mark. -/
theorem eq_of_isMarked {marks marks' : Marks} (length : marks.length = marks'.length)
    (same : ∀ position, IsMarked marks position ↔ IsMarked marks' position) : marks = marks' := by
  refine List.ext_getElem length fun position left right => ?_
  have here := same position
  simp only [IsMarked, List.getElem?_eq_getElem left, List.getElem?_eq_getElem right,
    Option.some.injEq] at here
  exact Bool.eq_iff_iff.mpr here

theorem isMarked_zipWith_and {marks marks' : Marks} {position : Nat} :
    IsMarked (List.zipWith (· && ·) marks marks') position ↔
      IsMarked marks position ∧ IsMarked marks' position := by
  simp only [IsMarked, List.getElem?_zipWith]
  cases marks[position]? <;> cases marks'[position]? <;> simp

theorem isMarked_mergeMarks {marks marks' : Marks} (length : marks.length = marks'.length)
    {position : Nat} : IsMarked (mergeMarks marks marks') position ↔
      IsMarked marks position ∨ IsMarked marks' position := by
  by_cases inside : position < marks.length
  · simp [IsMarked, mergeMarks, List.getElem?_zipWith, List.getElem?_eq_getElem inside,
      List.getElem?_eq_getElem (length ▸ inside)]
  · have left : marks[position]? = none := List.getElem?_eq_none (by omega)
    have right : marks'[position]? = none := List.getElem?_eq_none (by omega)
    simp [IsMarked, mergeMarks, List.getElem?_zipWith, left, right]

theorem length_mergeMarks {marks marks' : Marks} (length : marks.length = marks'.length) :
    (mergeMarks marks marks').length = marks.length := by
  simp [mergeMarks, ← length]

theorem count_mergeMarks {marks marks' : Marks} (length : marks.length = marks'.length)
    (changed : mergeMarks marks marks' ≠ marks) :
    marks.count true < (mergeMarks marks marks').count true := by
  have le (marks marks' : Marks) (length : marks.length = marks'.length) :
      marks.count true ≤ (mergeMarks marks marks').count true := by
    induction marks generalizing marks' with
    | nil => exact Nat.zero_le _
    | cons mark marks ih =>
        cases marks' with
        | nil => cases length
        | cons mark' marks' =>
            have rest := ih marks' (Nat.succ.inj length)
            simp only [mergeMarks, List.zipWith_cons_cons, List.count_cons] at rest ⊢
            cases mark <;> cases mark' <;> simp <;> omega
  induction marks generalizing marks' with
  | nil => exact absurd rfl changed
  | cons mark marks ih =>
      cases marks' with
      | nil => cases length
      | cons mark' marks' =>
          have rest := le marks marks' (Nat.succ.inj length)
          have more := ih (Nat.succ.inj length)
          simp only [mergeMarks, List.zipWith_cons_cons, List.count_cons, ne_eq,
            List.cons.injEq] at rest more changed ⊢
          cases mark <;> cases mark' <;> simp at changed ⊢
          · exact more changed
          · omega
          · exact more changed
          · exact more changed

/-! ## Steps of the matcher -/

/-- A step on the marks of `size` positions goes from what is marked to what is related to it. -/
structure Realizes (size : Nat) (step : Marks → Marks) (relation : Nat → Nat → Prop) : Prop where
  length : ∀ {marks}, marks.length = size → (step marks).length = size
  isMarked : ∀ {marks}, marks.length = size → ∀ {last},
    IsMarked (step marks) last ↔ ∃ first, IsMarked marks first ∧ relation first last

namespace Realizes

variable {size : Nat} {step step' : Marks → Marks} {relation relation' : Nat → Nat → Prop}

theorem congr (realizes : Realizes size step relation)
    (same : ∀ first last, first < size → (relation first last ↔ relation' first last)) :
    Realizes size step relation' where
  length := realizes.length
  isMarked := by
    intro marks length last
    rw [realizes.isMarked length]
    refine exists_congr fun first => and_congr_right fun marked => ?_
    exact same first last (length ▸ marked.lt)

theorem stay : Realizes size id (fun first last => first = last) where
  length := id
  isMarked := by simp

theorem of_eq (realizes : Realizes size step relation)
    (same : ∀ marks, marks.length = size → step' marks = step marks) :
    Realizes size step' relation where
  length := by
    intro marks length
    rw [same marks length, realizes.length length]
  isMarked := by
    intro marks length last
    rw [same marks length, realizes.isMarked length]

theorem comp (one : Realizes size step relation) (two : Realizes size step' relation') :
    Realizes size (step' ∘ step)
      (fun first last => ∃ between, relation first between ∧ relation' between last) where
  length length := two.length (one.length length)
  isMarked := by
    intro marks length last
    rw [Function.comp_apply, two.isMarked (one.length length)]
    constructor
    · rintro ⟨between, marked, second⟩
      obtain ⟨first, marked, one⟩ := (one.isMarked length).mp marked
      exact ⟨first, marked, between, one, second⟩
    · rintro ⟨first, marked, between, isOne, second⟩
      exact ⟨between, (one.isMarked length).mpr ⟨first, marked, isOne⟩, second⟩

theorem merge (one : Realizes size step relation) (two : Realizes size step' relation') :
    Realizes size (fun marks => mergeMarks (step marks) (step' marks))
      (fun first last => relation first last ∨ relation' first last) where
  length := by
    intro marks length
    rw [length_mergeMarks ((one.length length).trans (two.length length).symm), one.length length]
  isMarked := by
    intro marks length last
    rw [isMarked_mergeMarks ((one.length length).trans (two.length length).symm),
      one.isMarked length, two.isMarked length, ← exists_or]
    exact exists_congr fun first => and_or_left.symm

theorem fixed (realizes : Realizes size step relation) {marks : Marks}
    (length : marks.length = size) (same : step marks = marks) (count : Nat) {last : Nat} :
    IsMarked marks last ↔ ∃ first, IsMarked marks first ∧ Times relation count first last := by
  induction count with
  | zero => simp [Times.zero_iff]
  | succ count ih =>
      rw [ih]
      constructor
      · rintro ⟨between, marked, more⟩
        rw [← same] at marked
        obtain ⟨first, marked, one⟩ := (realizes.isMarked length).mp marked
        exact ⟨first, marked, .succ one more⟩
      · rintro ⟨first, marked, steps⟩
        obtain ⟨between, one, more⟩ := Times.succ_iff.mp steps
        refine ⟨between, ?_, more⟩
        rw [← same]
        exact (realizes.isMarked length).mpr ⟨first, marked, one⟩

theorem exactly (realizes : Realizes size step relation) (count : Nat) :
    Realizes size (Pattern.exactly step count) (Times relation count) := by
  induction count with
  | zero => exact stay.congr fun first last _ => Times.zero_iff.symm
  | succ count ih =>
      refine ⟨fun {marks} length => ?_, fun {marks} length {last} => ?_⟩
      · unfold Pattern.exactly
        dsimp only
        split
        · exact length
        · exact ih.length (realizes.length length)
      · unfold Pattern.exactly
        dsimp only
        split
        · next same => exact realizes.fixed length same (count + 1)
        · refine ((realizes.comp ih).isMarked length).trans ?_
          exact exists_congr fun first => and_congr_right fun _ => Times.succ_iff.symm

end Realizes

/-- A step that keeps what is marked. -/
def grow (step : Marks → Marks) (marks : Marks) : Marks := mergeMarks marks (step marks)

theorem upTo_eq_exactly (step : Marks → Marks) (count : Nat) (marks : Marks) :
    upTo step count marks = exactly (grow step) count marks := by
  induction count generalizing marks with
  | zero => rfl
  | succ count ih =>
      unfold upTo exactly
      dsimp only [grow]
      split
      · rfl
      · exact ih _

namespace Realizes

variable {size : Nat} {step : Marks → Marks} {relation : Nat → Nat → Prop}

theorem grow (realizes : Realizes size step relation) :
    Realizes size (Pattern.grow step) (fun first last => first = last ∨ relation first last) :=
  stay.merge realizes

theorem upTo (realizes : Realizes size step relation) (count : Nat) :
    Realizes size (Pattern.upTo step count)
      (fun first last => ∃ fewer ≤ count, Times relation fewer first last) := by
  have same : Pattern.upTo step count = Pattern.exactly (Pattern.grow step) count :=
    funext (upTo_eq_exactly step count)
  rw [same]
  exact (realizes.grow.exactly count).congr fun first last _ => Times.lazy_iff

/-- Steps that mark something new come to an end once there is nothing left to mark. -/
theorem grow_exactly (realizes : Realizes size step relation) {count : Nat} {marks : Marks}
    (length : marks.length = size) (enough : size ≤ count + marks.count true) :
    Pattern.grow step (Pattern.exactly (Pattern.grow step) count marks) =
      Pattern.exactly (Pattern.grow step) count marks := by
  induction count generalizing marks with
  | zero =>
      have all : ∀ position < size, IsMarked marks position := by
        have full : marks.count true = marks.length := by
          have : marks.count true ≤ marks.length := List.count_le_length
          omega
        rw [List.count_eq_length] at full
        intro position inside
        have member := List.getElem_mem (length ▸ inside : position < marks.length)
        exact List.getElem?_eq_some_iff.mpr ⟨length ▸ inside, (full _ member).symm⟩
      have grown := realizes.grow.length length
      refine eq_of_isMarked (grown.trans length.symm) fun position => ?_
      refine ⟨fun marked => ?_, fun marked => ?_⟩
      · exact all position (grown ▸ marked.lt)
      · exact (realizes.grow.isMarked length).mpr ⟨position, marked, .inl rfl⟩
  | succ count ih =>
      unfold Pattern.exactly
      dsimp only
      split
      · next same => exact same
      · next changed =>
          have more := count_mergeMarks (length.trans (realizes.length length).symm) changed
          exact ih (realizes.grow.length length) (by unfold Pattern.grow; omega)

/-- As many steps as there are positions lead to all that any number of steps leads to. -/
theorem upTo_size (realizes : Realizes size step relation) :
    Realizes size (Pattern.upTo step size)
      (fun first last => ∃ count, Times relation count first last) where
  length := (realizes.upTo size).length
  isMarked := by
    intro marks length last
    constructor
    · intro marked
      obtain ⟨first, marked, count, _, steps⟩ := ((realizes.upTo size).isMarked length).mp marked
      exact ⟨first, marked, count, steps⟩
    · rintro ⟨first, marked, count, steps⟩
      have closed := realizes.grow_exactly length (Nat.le_add_right size _)
      rw [← upTo_eq_exactly] at closed
      have reached := (realizes.upTo size).length length
      refine (realizes.grow.fixed reached closed count).mpr ⟨first, ?_, ?_⟩
      · exact ((realizes.upTo size).isMarked length).mpr
          ⟨first, marked, 0, Nat.zero_le _, .zero first⟩
      · exact Times.lazy_iff.mpr ⟨count, le_rfl, steps⟩

end Realizes

/-! ## Patterns -/

theorem length_positionsOf (look : Look) (before : Option Char) (text : List Char) :
    (positionsOf look before text).length = text.length + 1 := by
  induction text generalizing before with
  | nil => rfl
  | cons c rest ih => rw [positionsOf, List.length_cons, ih, List.length_cons]

theorem isMarked_positionsOf (look : Look) (before : Option Char) (text : List Char)
    (position : Nat) : IsMarked (positionsOf look before text) position ↔
      position ≤ text.length ∧ look.holds
        (if position = 0 then before else text[position - 1]?) text[position]? = true := by
  induction text generalizing before position with
  | nil =>
      cases position with
      | zero => simp [positionsOf, IsMarked]
      | succ position => simp [positionsOf, IsMarked]
  | cons c rest ih =>
      cases position with
      | zero => simp [positionsOf, IsMarked]
      | succ position =>
          have shifted : IsMarked (positionsOf look before (c :: rest)) (position + 1) ↔
              IsMarked (positionsOf look (some c) rest) position := by
            simp [positionsOf, IsMarked]
          rw [shifted, ih, List.length_cons, Nat.add_le_add_iff_right, if_neg (Nat.succ_ne_zero _)]
          cases position with
          | zero => simp
          | succ position => simp

/-- The matcher goes from what is marked to where the pattern leads from there. -/
theorem realizes_trace (text : List Char) (pattern : Pattern) :
    Realizes (text.length + 1) (trace text pattern).run (pattern.Spans text) := by
  induction pattern with
  | empty => exact .stay
  | set points =>
      refine ⟨fun {marks} length => ?_, fun {marks} length {last} => ?_⟩
      · simp [trace, Trace.run, length]
      · cases last with
        | zero => simp [trace, Trace.run, Spans, IsMarked]
        | succ last =>
            have shifted : IsMarked ((trace text (.set points)).run marks) (last + 1) ↔
                IsMarked (List.zipWith (· && ·) marks
                  (text.map fun c => points.contains c.toNat)) last := by
              simp [trace, Trace.run, IsMarked]
            rw [shifted, isMarked_zipWith_and]
            simp only [Spans, IsMarked, List.getElem?_map, Option.map_eq_some_iff]
            constructor
            · rintro ⟨marked, c, there, contains⟩
              exact ⟨last, marked, c, there, contains, rfl⟩
            · rintro ⟨first, marked, c, there, contains, same⟩
              obtain rfl := Nat.succ.inj same
              exact ⟨marked, c, there, contains⟩
  | look condition =>
      refine ⟨fun {marks} length => ?_, fun {marks} length {last} => ?_⟩
      · simp [trace, Trace.run, length, length_positionsOf]
      · simp only [trace, Trace.run, isMarked_zipWith_and, isMarked_positionsOf, Spans, charBefore]
        constructor
        · rintro ⟨marked, inside, holds⟩
          exact ⟨last, marked, inside, holds, rfl⟩
        · rintro ⟨first, marked, inside, holds, rfl⟩
          exact ⟨marked, inside, holds⟩
  | seq one two ihOne ihTwo => exact ihOne.comp ihTwo
  | either one two ihOne ihTwo => exact ihOne.merge ihTwo
  | repetition least most body ih =>
      cases most with
      | none =>
          have steps := (ih.exactly least).comp ih.upTo_size
          refine (steps.congr fun first last _ => ?_).of_eq fun marks length => ?_
          · constructor
            · rintro ⟨between, start, count, more⟩
              exact ⟨least + count, Nat.le_add_right _ _, by simp, start.append more⟩
            · rintro ⟨count, le, _, all⟩
              obtain ⟨more, rfl⟩ := Nat.exists_eq_add_of_le le
              obtain ⟨between, start, rest⟩ := Times.add_iff.mp all
              exact ⟨between, start, more, rest⟩
          · simp [trace, Trace.run, length]
      | some most =>
          have steps := (ih.exactly least).comp (ih.upTo (most - least))
          refine (steps.congr fun first last _ => ?_).of_eq fun marks length => rfl
          constructor
          · rintro ⟨between, start, count, le, more⟩
            refine ⟨least + count, Nat.le_add_right _ _, ?_, start.append more⟩
            simp only [Option.mem_some_iff, forall_eq']
            omega
          · rintro ⟨count, le, limit, all⟩
            have bound : count ≤ max least most := limit most rfl
            obtain ⟨more, rfl⟩ := Nat.exists_eq_add_of_le le
            obtain ⟨between, start, rest⟩ := Times.add_iff.mp all
            exact ⟨between, start, more, by omega, rest⟩
  | group body ih => exact ih

/-- The matcher finds a match exactly if the pattern leads from some position to another. -/
theorem matchesWithin_iff {pattern : Pattern} {text : List Char} :
    pattern.matchesWithin text = true ↔
      ∃ first last, first ≤ text.length ∧ pattern.Spans text first last := by
  have length : (List.replicate (text.length + 1) true).length = text.length + 1 :=
    List.length_replicate
  have start : ∀ first,
      IsMarked (List.replicate (text.length + 1) true) first ↔ first ≤ text.length := by
    intro first
    simp [IsMarked, List.getElem?_replicate]
  rw [matchesWithin, List.any_eq_true]
  constructor
  · rintro ⟨mark, member, isMark⟩
    obtain ⟨last, there⟩ := List.getElem?_of_mem member
    rw [show mark = true from isMark] at there
    obtain ⟨first, marked, spans⟩ := ((realizes_trace text pattern).isMarked length).mp there
    exact ⟨first, last, (start first).mp marked, spans⟩
  · rintro ⟨first, last, inside, spans⟩
    have marked := ((realizes_trace text pattern).isMarked length).mpr
      ⟨first, (start first).mpr inside, spans⟩
    exact ⟨true, List.mem_of_getElem? marked, rfl⟩

end JsonQuery.Pattern

import Mathlib.Tactic
import JsonQuery.Pattern.Expansion

/-! # Free dots

Read from the left, a pattern is a row of escapes, classes and single characters, and may end in an
open class or behind a backslash. Every pattern has exactly one outline of this kind. Writing out the
free dots, those that are single characters of the outline, puts a class in the place of each and
leaves all else as it is; hence it can be done part by part, and need not be done twice.
-/

namespace JsonQuery.Pattern

/-- What stands in a class: an escape, or a character that neither begins one nor closes the class. -/
inductive RegionItem where
  | escape (c : Char)
  | plain (c : Char) (notEscape : c ≠ '\\') (notClosing : c ≠ ']')
  deriving DecidableEq

/-- A part of a pattern: an escape, a class up to the first closing bracket that is not escaped, or a
    character that begins neither. -/
inductive Part where
  | escape (c : Char)
  | region (items : List RegionItem)
  | plain (c : Char) (notEscape : c ≠ '\\') (notOpening : c ≠ '[')
  deriving DecidableEq

/-- Where a pattern ends: behind a part, behind a backslash that escapes nothing, or in a class that
    is not closed, perhaps behind such a backslash. -/
inductive Ending where
  | complete
  | backslash
  | inRegion (items : List RegionItem) (dangling : Bool)
  deriving DecidableEq

structure Outline where
  parts : List Part
  ending : Ending
  deriving DecidableEq

/-! ## Texts of outlines -/

def RegionItem.text : RegionItem → List Char
  | .escape c => ['\\', c]
  | .plain c _ _ => [c]

def itemsText (items : List RegionItem) : List Char := items.flatMap RegionItem.text

def Part.text : Part → List Char
  | .escape c => ['\\', c]
  | .region items => '[' :: (itemsText items ++ [']'])
  | .plain c _ _ => [c]

theorem Part.text_region_append (items : List RegionItem) (rest : List Char) :
    Part.text (.region items) ++ rest = '[' :: (itemsText items ++ ']' :: rest) := by
  simp [Part.text]

/-- What is written behind the last part. -/
def Ending.text : Ending → List Char
  | .complete => []
  | .backslash => ['\\']
  | .inRegion items dangling => '[' :: (itemsText items ++ if dangling then ['\\'] else [])

namespace Outline

def text (o : Outline) : List Char := o.parts.flatMap Part.text ++ o.ending.text

def cons (part : Part) (o : Outline) : Outline := { o with parts := part :: o.parts }

@[simp] theorem text_cons (part : Part) (o : Outline) : (o.cons part).text = part.text ++ o.text := by
  simp [text, cons]

end Outline

/-! ## Free dots of outlines -/

/-- A dot that is neither escaped nor in a class. -/
def Part.isFreeDot : Part → Bool
  | .plain c _ _ => c == '.'
  | _ => false

/-- The class of all characters but line feed and carriage return. -/
def dotRegion : Part := .region [.plain '^' (by decide) (by decide), .escape 'n', .escape 'r']

/-- A part with the class in the place of a free dot. -/
def Part.written (part : Part) : Part := if part.isFreeDot then dotRegion else part

/-- An outline with the class in the place of every free dot. -/
def Outline.written (o : Outline) : Outline := { o with parts := o.parts.map Part.written }

/-! ## Taking a pattern apart -/

mutual
def outline : List Char → Outline
  | [] => ⟨[], .complete⟩
  | c :: rest =>
      if isEscape : c = '\\' then
        match rest with
        | [] => ⟨[], .backslash⟩
        | escaped :: rest => (outline rest).cons (.escape escaped)
      else if isOpening : c = '[' then regionOutline [] rest
      else (outline rest).cons (.plain c isEscape isOpening)

/-- The outline of a text that begins in a class, some items of which have been read. -/
def regionOutline (items : List RegionItem) : List Char → Outline
  | [] => ⟨[], .inRegion items false⟩
  | c :: rest =>
      if isEscape : c = '\\' then
        match rest with
        | [] => ⟨[], .inRegion items true⟩
        | escaped :: rest => regionOutline (items ++ [.escape escaped]) rest
      else if isClosing : c = ']' then (outline rest).cons (.region items)
      else regionOutline (items ++ [.plain c isEscape isClosing]) rest
end

theorem itemsText_append (items more : List RegionItem) :
    itemsText (items ++ more) = itemsText items ++ itemsText more := List.flatMap_append

mutual
/-- Nothing of a pattern is lost. -/
theorem text_outline (pattern : List Char) : (outline pattern).text = pattern := by
  match pattern with
  | [] => rfl
  | c :: rest =>
      rw [outline.eq_def]
      dsimp only
      split
      · next isEscape =>
          subst isEscape
          match rest with
          | [] => rfl
          | escaped :: rest =>
              simp only [Outline.text_cons, text_outline rest]
              rfl
      split
      · next isOpening => rw [text_regionOutline [] rest, isOpening]; rfl
      · rw [Outline.text_cons, text_outline rest]
        rfl

theorem text_regionOutline (items : List RegionItem) (text : List Char) :
    (regionOutline items text).text = '[' :: (itemsText items ++ text) := by
  match text with
  | [] => rfl
  | c :: rest =>
      rw [regionOutline.eq_def]
      dsimp only
      split
      · next isEscape =>
          subst isEscape
          match rest with
          | [] => rfl
          | escaped :: rest =>
              simp only [text_regionOutline _ rest, itemsText_append, List.append_assoc]
              rfl
      split
      · next isClosing =>
          rw [Outline.text_cons, text_outline rest, isClosing]
          simp [Part.text]
      · rw [text_regionOutline _ rest, itemsText_append, List.append_assoc]
        rfl
end

/-! ### Texts of outlines taken apart -/

theorem outline_opening (rest : List Char) : outline ('[' :: rest) = regionOutline [] rest := by
  rw [outline.eq_def]
  rfl

theorem regionOutline_closing (items : List RegionItem) (rest : List Char) :
    regionOutline items (']' :: rest) = (outline rest).cons (.region items) := by
  rw [regionOutline.eq_def]
  rfl

theorem regionOutline_item (items : List RegionItem) (item : RegionItem) (rest : List Char) :
    regionOutline items (item.text ++ rest) = regionOutline (items ++ [item]) rest := by
  cases item with
  | escape c => rfl
  | plain c notEscape notClosing =>
      change regionOutline items (c :: rest) = _
      rw [regionOutline.eq_def]
      simp only [dif_neg notEscape, dif_neg notClosing]

theorem regionOutline_items (items more : List RegionItem) (rest : List Char) :
    regionOutline items (itemsText more ++ rest) = regionOutline (items ++ more) rest := by
  induction more generalizing items with
  | nil => simp [itemsText]
  | cons item more ih =>
      have split : itemsText (item :: more) ++ rest = item.text ++ (itemsText more ++ rest) := by
        simp [itemsText]
      rw [split, regionOutline_item, ih, List.append_assoc, List.singleton_append]

theorem outline_part (part : Part) (rest : List Char) :
    outline (part.text ++ rest) = (outline rest).cons part := by
  cases part with
  | escape c => rfl
  | region items =>
      rw [Part.text_region_append, outline_opening, regionOutline_items, regionOutline_closing,
        List.nil_append]
  | plain c notEscape notOpening =>
      change outline (c :: rest) = _
      rw [outline.eq_def]
      simp only [dif_neg notEscape, dif_neg notOpening]

theorem outline_ending (ending : Ending) : outline ending.text = ⟨[], ending⟩ := by
  cases ending with
  | complete => rfl
  | backslash => rfl
  | inRegion items dangling =>
      rw [Ending.text, outline_opening, regionOutline_items, List.nil_append]
      cases dangling <;> rfl

theorem outline_parts (parts : List Part) (rest : List Char) :
    outline (parts.flatMap Part.text ++ rest) =
      ⟨parts ++ (outline rest).parts, (outline rest).ending⟩ := by
  induction parts with
  | nil => rfl
  | cons part parts ih =>
      rw [List.flatMap_cons, List.append_assoc, outline_part, ih]
      rfl

theorem outline_text (o : Outline) : outline o.text = o := by
  rw [Outline.text, outline_parts, outline_ending, List.append_nil]

/-! ## Writing out the free dots -/

theorem expandDots_plain {inClass : Bool} {c : Char} (notEscape : c ≠ '\\') (rest : List Char) :
    expandDots inClass (c :: rest) =
      if c = '[' ∧ !inClass then c :: expandDots true rest
      else if c = ']' ∧ inClass then c :: expandDots false rest
      else if c = '.' ∧ !inClass then dotClass ++ expandDots inClass rest
      else c :: expandDots inClass rest := by
  rw [expandDots.eq_def]
  split
  · contradiction
  · next same => exact absurd (List.cons.inj same).1 notEscape
  · next same => exact absurd (List.cons.inj same).1 notEscape
  · next same =>
      obtain ⟨rfl, rfl⟩ := List.cons.inj same
      rfl

theorem expandDots_items (items : List RegionItem) (rest : List Char) :
    expandDots true (itemsText items ++ rest) = itemsText items ++ expandDots true rest := by
  induction items with
  | nil => rfl
  | cons item items ih =>
      cases item with
      | escape c => exact congrArg (['\\', c] ++ ·) ih
      | plain c notEscape notClosing =>
          change expandDots true (c :: (itemsText items ++ rest)) = c :: (itemsText items ++ _)
          rw [expandDots_plain notEscape]
          simp [notClosing, ih]

theorem expandDots_part (part : Part) (rest : List Char) :
    expandDots false (part.text ++ rest) = part.written.text ++ expandDots false rest := by
  cases part with
  | escape c => rfl
  | region items =>
      have closed : expandDots true (']' :: rest) = ']' :: expandDots false rest := by
        rw [expandDots_plain (by decide)]
        rfl
      have kept : Part.written (.region items) = .region items := rfl
      rw [kept, Part.text_region_append, Part.text_region_append, expandDots_plain (by decide)]
      simp [expandDots_items, closed]
  | plain c notEscape notOpening =>
      change expandDots false (c :: rest) = _
      rw [expandDots_plain notEscape]
      by_cases isDot : c = '.'
      · subst isDot
        rfl
      · simp [notOpening, isDot, Part.written, Part.isFreeDot, Part.text]

theorem expandDots_parts (parts : List Part) (rest : List Char) :
    expandDots false (parts.flatMap Part.text ++ rest) =
      (parts.map Part.written).flatMap Part.text ++ expandDots false rest := by
  induction parts with
  | nil => rfl
  | cons part parts ih =>
      rw [List.flatMap_cons, List.append_assoc, expandDots_part, ih, List.map_cons,
        List.flatMap_cons, List.append_assoc]

theorem expandDots_ending (ending : Ending) : expandDots false ending.text = ending.text := by
  cases ending with
  | complete => rfl
  | backslash => rfl
  | inRegion items dangling =>
      rw [Ending.text, expandDots_plain (by decide)]
      have rest : expandDots true (if dangling then ['\\'] else []) =
          if dangling then ['\\'] else [] := by
        cases dangling <;> rfl
      simp [expandDots_items, rest]

theorem expandDots_eq (pattern : List Char) :
    expandDots false pattern = (outline pattern).written.text := by
  conv_lhs => rw [← text_outline pattern]
  rw [Outline.text, expandDots_parts, expandDots_ending]
  rfl

theorem outline_expandDots (pattern : List Char) :
    outline (expandDots false pattern) = (outline pattern).written := by
  rw [expandDots_eq, outline_text]

/-! ## No free dots are left -/

theorem Part.isFreeDot_written (part : Part) : part.written.isFreeDot = false := by
  unfold Part.written
  split
  · rfl
  · next notFree => exact Bool.eq_false_iff.mpr notFree

theorem Outline.isFreeDot_of_mem_written {o : Outline} {part : Part}
    (member : part ∈ o.written.parts) : part.isFreeDot = false := by
  obtain ⟨before, _, rfl⟩ := List.mem_map.mp member
  exact before.isFreeDot_written

theorem Part.written_written (part : Part) : part.written.written = part.written :=
  if_neg (by simp [part.isFreeDot_written])

theorem Outline.written_written (o : Outline) : o.written.written = o.written := by
  simp [written, Part.written_written]

/-- Behind a complete pattern the writing out starts anew. -/
theorem expandDots_append {pattern : List Char} (complete : (outline pattern).ending = .complete)
    (more : List Char) :
    expandDots false (pattern ++ more) = expandDots false pattern ++ expandDots false more := by
  -- A complete pattern is nothing but its parts, and parts are written out in front of any text.
  have inParts : pattern = (outline pattern).parts.flatMap Part.text := by
    conv_lhs => rw [← text_outline pattern]
    rw [Outline.text, complete, Ending.text, List.append_nil]
  have alone := expandDots_parts (outline pattern).parts []
  rw [List.append_nil, ← inParts] at alone
  conv_lhs => rw [inParts]
  rw [expandDots_parts, alone, expandDots, List.append_nil]

/-- Writing out the free dots of a pattern. The outline of a pattern is the only one that has its
    text. The class takes the place of every free dot, and all other parts and the ending are kept,
    as the outline of what is written shows; so nothing changes if it is written out again. A pattern
    that is complete is written out by itself, whatever stands behind it. Between anchors it is
    written out in the same way. -/
theorem free_dots_written_out (pattern : List Char) :
    ((outline pattern).text = pattern ∧ ∀ o : Outline, o.text = pattern → o = outline pattern) ∧
      expand false pattern = (outline pattern).written.text ∧
      outline (expand false pattern) = (outline pattern).written ∧
      (∀ part ∈ (outline (expand false pattern)).parts, part.isFreeDot = false) ∧
      (outline (expand false pattern)).ending = (outline pattern).ending ∧
      expand false (expand false pattern) = expand false pattern ∧
      ((outline pattern).ending = .complete → ∀ more : List Char,
        expand false (pattern ++ more) = expand false pattern ++ expand false more) ∧
      expand true pattern = ['^', '(', '?', ':'] ++ expand false pattern ++ [')', '$'] := by
  have plain (text : List Char) : expand false text = expandDots false text := rfl
  have own := outline_expandDots pattern
  simp only [plain]
  refine ⟨⟨text_outline pattern, ?_⟩, expandDots_eq pattern, own, ?_, ?_, ?_, expandDots_append, rfl⟩
  · rintro o rfl
    exact (outline_text o).symm
  · intro part member
    rw [own] at member
    exact Outline.isFreeDot_of_mem_written member
  · rw [own]
    rfl
  · rw [expandDots_eq (expandDots false pattern), own, Outline.written_written, expandDots_eq]

/-- A free dot, one in a class with an escaped bracket and an escaped one; behind them another free
    one and an open class. -/
theorem free_dots_written_out_joined :
    (outline "a.[.\\]]\\.".toList).ending = .complete ∧
      expand false ("a.[.\\]]\\.".toList ++ ".[^.".toList) =
        "a[^\\n\\r][.\\]]\\.[^\\n\\r][^.".toList := by
  have complete : (outline "a.[.\\]]\\.".toList).ending = .complete := by decide +kernel
  have joined := (free_dots_written_out "a.[.\\]]\\.".toList).2.2.2.2.2.2.1 complete ".[^.".toList
  exact ⟨complete, joined.trans (by decide +kernel)⟩

end JsonQuery.Pattern

import Mathlib.Tactic
import JsonQuery.Pattern.Scan

/-! # Scanning in front of an anchor

A pattern is read on its own, or in a group with the closing parenthesis of the group and an anchor
behind it. Both readings go on side by side up to the end of the pattern. There the first is at the
end of the text, and the second in front of the parenthesis, or at the end as well if a comment has
taken in what is left. Where the first fails for want of more text, the second may read on past the
parenthesis.
-/

namespace JsonQuery.Pattern

open JsonQuery.Text

/-- What stands behind a pattern between anchors. -/
def closing : List Char := [')', '$']

/-- What is left in two readings: some text and the same with the closing anchor behind it, or
    nothing at all where a comment has taken the anchor in. `commented` says whether there may be
    comments. -/
inductive Continues (commented : Prop) : List Char → List Char → Prop where
  | behind {text : List Char} (signs : '#' ∈ text → commented) :
      Continues commented text (text ++ closing)
  | swallowed (comment : commented) : Continues commented [] []

/-- Both readings have got the same from a text, and go on. -/
inductive Together {α : Type} (commented : Prop) (text : List Char) :
    α × List Char → α × List Char → Prop where
  | intro {result : α} {rest rest' : List Char} (continues : Continues commented rest rest')
      (left : rest <:+ text) : Together commented text (result, rest) (result, rest')

/-- Both readings have got the same two things from a text, and go on. -/
def TogetherTwo {α β : Type} (commented : Prop) (text : List Char)
    (one two : α × β × List Char) : Prop :=
  one.1 = two.1 ∧ Together commented text one.2 two.2

/-- The same character is next in both readings. -/
inductive Ahead (commented : Prop) (text : List Char) : List Char → List Char → Prop where
  | intro {c : Char} {rest rest' : List Char}
      (continues : Continues commented (c :: rest) (c :: rest')) (left : c :: rest <:+ text) :
      Ahead commented text (c :: rest) (c :: rest')

/-- Two attempts side by side: `together` relates what both have got, and `lost` says what the
    second may have got where the first has failed. The second never fails alone. -/
inductive Parallel {γ : Type} (together : γ → γ → Prop) (lost : γ → Prop) :
    Option γ → Option γ → Prop where
  | both {one two : γ} (isTogether : together one two) :
      Parallel together lost (some one) (some two)
  | neither : Parallel together lost none none
  | second {two : γ} (isLost : lost two) : Parallel together lost none (some two)

/-- The second attempt fails where the first does. -/
def never {γ : Type} : γ → Prop := fun _ => False

namespace Parallel

variable {γ δ : Type} {together : γ → γ → Prop} {lost : γ → Prop} {one two : Option γ}
  {together' : δ → δ → Prop} {lost' : δ → Prop}

theorem of_none (onSecond : ∀ b, two = some b → lost b) : Parallel together lost none two := by
  cases two with
  | none => exact .neither
  | some b => exact .second (onSecond b rfl)

theorem bind (parallel : Parallel together lost one two) {next next' : γ → Option δ}
    (onBoth : ∀ a b, together a b → Parallel together' lost' (next a) (next' b))
    (onSecond : ∀ b, lost b → ∀ result, next' b = some result → lost' result) :
    Parallel together' lost' (one >>= next) (two >>= next') := by
  cases parallel with
  | both isTogether => exact onBoth _ _ isTogether
  | neither => exact .neither
  | second isLost => exact .of_none (onSecond _ isLost)

theorem map (parallel : Parallel together lost one two) {f f' : γ → δ}
    (onBoth : ∀ a b, together a b → together' (f a) (f' b))
    (onSecond : ∀ b, lost b → lost' (f' b)) :
    Parallel together' lost' (one.map f) (two.map f') := by
  cases parallel with
  | both isTogether => exact .both (onBoth _ _ isTogether)
  | neither => exact .neither
  | second isLost => exact .second (onSecond _ isLost)

theorem weaken (parallel : Parallel together lost one two) {lost' : γ → Prop}
    (more : ∀ b, lost b → lost' b) : Parallel together lost' one two := by
  cases parallel with
  | both isTogether => exact .both isTogether
  | neither => exact .neither
  | second isLost => exact .second (more _ isLost)

end Parallel

section Scanners

variable {commented : Prop} {loose : Bool} {text text' : List Char}

namespace Continues

theorem of_nil (continues : Continues commented [] text') : text' = closing ∨ text' = [] := by
  cases continues with
  | behind => exact .inl rfl
  | swallowed => exact .inr rfl

theorem of_cons {c : Char} {rest : List Char} (continues : Continues commented (c :: rest) text') :
    ∃ rest', text' = c :: rest' ∧ Continues commented rest rest' := by
  cases continues with
  | behind signs =>
      exact ⟨rest ++ closing, rfl, .behind fun member => signs (List.mem_cons_of_mem c member)⟩

theorem tail {c c' : Char} {rest rest' : List Char}
    (continues : Continues commented (c :: rest) (c' :: rest')) :
    Continues commented rest rest' := by
  obtain ⟨_, same, continues⟩ := continues.of_cons
  rwa [(List.cons.inj same).2]

theorem length_le (continues : Continues commented text text') :
    text.length ≤ text'.length := by
  cases continues with
  | behind => simp
  | swallowed => exact le_rfl

end Continues

theorem Together.within {α : Type} {one two : α × List Char} {whole : List Char}
    (together : Together commented text one two) (left : text <:+ whole) :
    Together commented whole one two := by
  obtain ⟨continues, inner⟩ := together
  exact ⟨continues, inner.trans left⟩

theorem Parallel.within {α : Type} {lost : α × List Char → Prop} {one two : Option (α × List Char)}
    {whole : List Char} (parallel : Parallel (Together commented text) lost one two)
    (left : text <:+ whole) : Parallel (Together commented whole) lost one two := by
  cases parallel with
  | both isTogether => exact .both (isTogether.within left)
  | neither => exact .neither
  | second isLost => exact .second isLost

/-! ## Blanks and comments -/

theorem suffix_skipIgnored (inComment : Bool) (text : List Char) :
    skipIgnored inComment text <:+ text := by
  induction text generalizing inComment with
  | nil => exact List.suffix_refl _
  | cons c rest ih =>
      unfold skipIgnored
      split
      · exact (ih _).trans (List.suffix_cons c rest)
      split
      · exact (ih _).trans (List.suffix_cons c rest)
      split
      · exact (ih _).trans (List.suffix_cons c rest)
      · exact List.suffix_refl _

theorem suffix_skip (loose : Bool) (text : List Char) : skip loose text <:+ text := by
  cases loose with
  | false => exact List.suffix_refl _
  | true => exact suffix_skipIgnored false text

theorem continues_skipIgnored {inComment : Bool} (comment : inComment = true → commented)
    (signs : '#' ∈ text → commented) :
    Continues commented (skipIgnored inComment text) (skipIgnored inComment (text ++ closing)) := by
  induction text generalizing inComment with
  | nil =>
      -- a comment that is open at the end has begun at a number sign of the text
      cases inComment with
      | false => exact .behind signs
      | true => exact .swallowed (comment rfl)
  | cons c rest ih =>
      have signs' : '#' ∈ rest → commented := fun member => signs (List.mem_cons_of_mem c member)
      rw [List.cons_append]
      unfold skipIgnored
      split
      · next isComment => exact ih (fun _ => comment isComment) signs'
      split
      · exact ih (by simp) signs'
      split
      · next isSign =>
          refine ih (fun _ => signs ?_) signs'
          rw [isSign]
          exact List.mem_cons_self
      · exact .behind signs

theorem Continues.skip (continues : Continues commented text text') (loose : Bool) :
    Continues commented (skip loose text) (skip loose text') := by
  cases loose with
  | false => exact continues
  | true =>
      cases continues with
      | behind signs => exact continues_skipIgnored (by simp) signs
      | swallowed comment => exact .swallowed comment

/-- Something is left behind what is ignored, in both readings or in none, but for the anchor. -/
theorem Continues.skipTo? (continues : Continues commented text text') (loose : Bool) :
    Parallel (Ahead commented text) (· = closing) (Pattern.skipTo? loose text)
      (Pattern.skipTo? loose text') := by
  have left := suffix_skip loose text
  have further := continues.skip loose
  unfold Pattern.skipTo?
  generalize Pattern.skip loose text = rest at left further
  generalize Pattern.skip loose text' = rest' at further
  cases further with
  | swallowed => exact .neither
  | behind signs =>
      cases rest with
      | nil => exact .second rfl
      | cons c rest => exact .both ⟨.behind signs, left⟩

/-! ## Runs of characters -/

/-- A run of characters that pass a test, between which blanks may be ignored. -/
def charRun (test : Char → Bool) (loose : Bool) (fuel : Nat) (done text : List Char) :
    List Char × List Char :=
  match fuel, text with
  | fuel + 1, c :: rest =>
      if test c then charRun test loose fuel (c :: done) (skip loose rest)
      else (done.reverse, text)
  | _, _ => (done.reverse, text)

theorem digitRun_eq_charRun (loose : Bool) (fuel : Nat) (done text : List Char) :
    digitRun loose fuel done text = charRun isDigit loose fuel done text := by
  fun_induction charRun isDigit loose fuel done text with
  | case1 done fuel c rest passes ih => rw [digitRun, if_pos passes, ih]
  | case2 done fuel c rest fails => rw [digitRun, if_neg fails]
  | case3 fuel done text other => rw [digitRun]; exact other

theorem boundaryName_eq_charRun (loose : Bool) (fuel : Nat) (done text : List Char) :
    boundaryName loose fuel done text = charRun isBoundaryChar loose fuel done text := by
  fun_induction charRun isBoundaryChar loose fuel done text with
  | case1 done fuel c rest passes ih => rw [boundaryName, if_pos passes, ih]
  | case2 done fuel c rest fails => rw [boundaryName, if_neg fails]
  | case3 fuel done text other => rw [boundaryName]; exact other

theorem skipBlanks_eq_charRun (loose : Bool) (fuel : Nat) (done text : List Char) :
    skipBlanks loose fuel text = (charRun isBlank loose fuel done text).2 := by
  fun_induction charRun isBlank loose fuel done text with
  | case1 done fuel c rest passes ih => rw [skipBlanks, if_pos passes, ih]
  | case2 done fuel c rest fails => rw [skipBlanks, if_neg fails]
  | case3 fuel done text other => rw [skipBlanks]; exact other

theorem charRun_end {test : Char → Bool} (stops : test ')' = false)
    (continues : Continues commented [] text') (fuel : Nat) (done : List Char) :
    charRun test loose fuel done text' = (done.reverse, text') := by
  obtain rfl | rfl := continues.of_nil <;> cases fuel <;> simp [charRun, closing, stops]

theorem together_charRun {test : Char → Bool} (stops : test ')' = false)
    (continues : Continues commented text text') {fuel fuel' : Nat}
    (enough : text.length ≤ fuel) (enough' : text.length ≤ fuel') (done : List Char) :
    Together commented text (charRun test loose fuel done text)
      (charRun test loose fuel' done text') := by
  fun_induction charRun test loose fuel done text generalizing fuel' text' with
  | case1 done fuel c rest passes ih =>
      obtain ⟨rest', rfl, further⟩ := continues.of_cons
      obtain ⟨fuel', rfl⟩ := Nat.exists_eq_add_one_of_ne_zero (show fuel' ≠ 0 by grind)
      have left := suffix_skip loose rest
      have shorter := left.length_le
      rw [charRun, if_pos passes]
      exact (ih (further.skip loose) (by grind) (by grind)).within
        (left.trans (List.suffix_cons c rest))
  | case2 done fuel c rest fails =>
      obtain ⟨rest', rfl, further⟩ := continues.of_cons
      have same : charRun test loose fuel' done (c :: rest') = (done.reverse, c :: rest') := by
        cases fuel' <;> simp [charRun, fails]
      rw [same]
      exact ⟨continues, List.suffix_refl _⟩
  | case3 fuel done text other =>
      have isEmpty : text = [] := by
        cases text with
        | nil => rfl
        | cons c rest =>
            obtain ⟨fuel, rfl⟩ := Nat.exists_eq_add_one_of_ne_zero (show fuel ≠ 0 by grind)
            exact (other fuel c rest rfl rfl).elim
      subst isEmpty
      rw [charRun_end stops continues]
      exact ⟨continues, List.suffix_refl _⟩

theorem together_digitRun (continues : Continues commented text text') {fuel fuel' : Nat}
    (enough : text.length ≤ fuel) (enough' : text.length ≤ fuel') (done : List Char) :
    Together commented text (digitRun loose fuel done text) (digitRun loose fuel' done text') := by
  rw [digitRun_eq_charRun, digitRun_eq_charRun]
  exact together_charRun (by decide) continues enough enough' done

theorem together_boundaryName (continues : Continues commented text text') {fuel fuel' : Nat}
    (enough : text.length ≤ fuel) (enough' : text.length ≤ fuel') (done : List Char) :
    Together commented text (boundaryName loose fuel done text)
      (boundaryName loose fuel' done text') := by
  rw [boundaryName_eq_charRun, boundaryName_eq_charRun]
  exact together_charRun (by decide) continues enough enough' done

theorem Continues.skipBlanks (continues : Continues commented text text') :
    Continues commented (skipBlanks loose text.length text)
        (skipBlanks loose text'.length text') ∧ skipBlanks loose text.length text <:+ text := by
  have blanks : Together commented text (charRun isBlank loose text.length [] text)
      (charRun isBlank loose text'.length [] text') :=
    together_charRun (by decide) continues le_rfl continues.length_le []
  rw [skipBlanks_eq_charRun loose _ [], skipBlanks_eq_charRun loose _ []]
  match charRun isBlank loose text.length [] text, charRun isBlank loose text'.length [] text',
    blanks with
  | _, _, .intro further left => exact ⟨further, left⟩

/-! ## Numbers -/

theorem Continues.dropWhile {test : Char → Bool} (stops : test ')' = false)
    (continues : Continues commented text text') :
    Continues commented (text.dropWhile test) (text'.dropWhile test) := by
  induction text generalizing text' with
  | nil => obtain rfl | rfl := continues.of_nil <;> simpa [closing, stops] using continues
  | cons c rest ih =>
      obtain ⟨rest', rfl, further⟩ := continues.of_cons
      by_cases passes : test c = true
      · rw [List.dropWhile_cons_of_pos passes, List.dropWhile_cons_of_pos passes]
        exact ih further
      · rw [List.dropWhile_cons_of_neg passes, List.dropWhile_cons_of_neg passes]
        exact continues

theorem parallel_count? (continues : Continues commented text text') :
    Parallel (Together commented text) never (count? loose text) (count? loose text') := by
  have inside : text.dropWhile isBlank <:+ text := List.dropWhile_suffix isBlank
  have start : Continues commented (text.dropWhile isBlank) (text'.dropWhile isBlank) :=
    continues.dropWhile (by decide)
  have run : Together commented _ (digitRun loose text.length [] (text.dropWhile isBlank))
      (digitRun loose text'.length [] (text'.dropWhile isBlank)) :=
    together_digitRun start inside.length_le (inside.length_le.trans continues.length_le) []
  unfold count?
  match digitRun loose text.length [] (text.dropWhile isBlank),
    digitRun loose text'.length [] (text'.dropWhile isBlank), run with
  | _, _, .intro further left =>
      dsimp only
      split
      · exact .neither
      · exact .both ⟨further.skipBlanks.1, (further.skipBlanks.2.trans left).trans inside⟩

theorem count?_closing : count? loose closing = none := by
  cases loose <;> rfl

theorem parallel_upperBound? (continues : Continues commented text text') (least : Nat) :
    Parallel (Together commented text) never (upperBound? loose least text)
      (upperBound? loose least text') := by
  cases text with
  | nil => obtain rfl | rfl := continues.of_nil <;> exact .both ⟨continues, List.suffix_refl _⟩
  | cons c rest =>
      obtain ⟨rest', rfl, further⟩ := continues.of_cons
      by_cases isComma : c = ','
      · subst isComma
        rw [upperBound?, upperBound?]
        match skipTo? loose rest, skipTo? loose rest', further.skipTo? loose with
        | _, _, .neither => exact .neither
        | _, _, .second isClosing =>
            subst isClosing
            change Parallel _ _ none (Option.map _ (count? loose closing))
            rw [count?_closing]
            exact .neither
        | _, _, .both (.intro (c := c) further left) =>
            have left := left.trans (List.suffix_cons ',' rest)
            by_cases isBrace : c = '\x7d'
            · subst isBrace
              exact .both ⟨further, left⟩
            · simp only [List.cons.injEq, isBrace, false_and, imp_self, implies_true]
              refine (parallel_count? further).map ?_ fun _ isLost => isLost
              rintro _ _ ⟨further, left'⟩
              exact ⟨further, left'.trans left⟩
      · simp only [upperBound?, List.cons.injEq, isComma, false_and, imp_self, implies_true]
        exact .both ⟨continues, List.suffix_refl _⟩

theorem Continues.skipLazy (continues : Continues commented text text') :
    Continues commented (skipLazy text) (skipLazy text') := by
  cases text with
  | nil => obtain rfl | rfl := continues.of_nil <;> exact continues
  | cons c rest =>
      obtain ⟨rest', rfl, further⟩ := continues.of_cons
      by_cases isLazy : c = '?'
      · subst isLazy
        exact further
      · simp only [Pattern.skipLazy, List.cons.injEq, isLazy, false_and, imp_self, implies_true]
        exact continues

theorem suffix_skipLazy (text : List Char) : skipLazy text <:+ text := by
  unfold skipLazy
  split
  · exact List.suffix_cons _ _
  · exact List.suffix_refl _

theorem parallel_bounds? (continues : Continues commented text text') :
    Parallel (TogetherTwo commented text) never (bounds? loose text) (bounds? loose text') := by
  refine (continues.skipTo? loose).bind ?_ ?_
  · rintro _ _ ⟨further, left⟩
    refine (parallel_count? further).bind ?_ fun _ isLost => isLost.elim
    rintro _ _ ⟨further, left'⟩
    replace left := left'.trans left
    refine (parallel_upperBound? further _).bind ?_ fun _ isLost => isLost.elim
    rintro _ _ @⟨most, rest, rest', further, left'⟩
    replace left := left'.trans left
    cases rest with
    | nil => obtain rfl | rfl := further.of_nil <;> exact .neither
    | cons c rest =>
        obtain ⟨rest', rfl, next⟩ := further.of_cons
        by_cases isBrace : c = '\x7d'
        · subst isBrace
          change Parallel _ _ (if _ then some (_, _, skipLazy (skip loose rest)) else none)
            (if _ then some (_, _, skipLazy (skip loose rest')) else none)
          split
          · refine .both ⟨rfl, (next.skip loose).skipLazy, ?_⟩
            exact (((suffix_skipLazy _).trans (suffix_skip loose rest)).trans
              (List.suffix_cons _ rest)).trans left
          · exact .neither
        · simp only [List.cons.injEq, isBrace, false_and, imp_self, implies_true]
          exact .neither
  · rintro _ rfl result isSome
    rw [count?_closing] at isSome
    cases isSome

/-! ## Escapes -/

theorem parallel_fixedHex? (continues : Continues commented text text') (digits : Nat)
    (done : List Char) : Parallel (Together commented text) never
      (fixedHex? loose done digits text) (fixedHex? loose done digits text') := by
  induction digits generalizing text text' done with
  | zero => exact .both ⟨continues, List.suffix_refl _⟩
  | succ more ih =>
      cases text with
      | nil => obtain rfl | rfl := continues.of_nil <;> exact .neither
      | cons c rest =>
          obtain ⟨rest', rfl, further⟩ := continues.of_cons
          rw [fixedHex?, fixedHex?]
          split
          · have left := (suffix_skip loose rest).trans (List.suffix_cons c rest)
            exact (ih (further.skip loose) _).within left
          · exact .neither

/-- The characters that pass a test, up to a closing brace. Blanks are ignored between them, and
    behind the brace if `blanks`. -/
def toBrace? (test : Char → Bool) (loose blanks : Bool) (fuel : Nat) (done text : List Char) :
    Option (List Char × List Char) :=
  match fuel, text with
  | _, '\x7d' :: rest => some (done.reverse, skip blanks rest)
  | fuel + 1, c :: rest =>
      if test c then toBrace? test loose blanks fuel (c :: done) (skip loose rest) else none
  | _, _ => none

theorem bracedHex?_eq_toBrace? (loose : Bool) (fuel : Nat) (done text : List Char) :
    bracedHex? loose fuel done text =
      toBrace? (fun c => (hexDigit? c).isSome) loose loose fuel done text := by
  fun_induction bracedHex? loose fuel done text with
  | case1 fuel done rest => simp only [toBrace?]
  | case2 done fuel c rest other passes ih => rw [toBrace?, if_pos passes, ih]; exact other
  | case3 done fuel c rest other fails => rw [toBrace?, if_neg fails]; exact other
  | case4 fuel done text brace other => rw [toBrace?]; exacts [brace, other]

theorem braced?_eq_toBrace? (loose : Bool) (fuel : Nat) (done text : List Char) :
    braced? loose fuel done text = toBrace? (fun _ => true) loose false fuel done text := by
  fun_induction braced? loose fuel done text with
  | case1 fuel done rest => simp only [toBrace?, skip, Bool.false_eq_true, if_false]
  | case2 done fuel c rest other ih => rw [toBrace?, if_pos rfl, ih]; exact other
  | case3 fuel done text brace other => rw [toBrace?]; exacts [brace, other]

theorem toBrace?_end {test : Char → Bool} {blanks : Bool} (continues : Continues commented [] text')
    (fuel : Nat) (done : List Char) : toBrace? test loose blanks fuel done text' = none := by
  have shown (loose : Bool) : skip loose ['$'] = ['$'] := by cases loose <;> rfl
  have nothing (loose : Bool) : skip loose [] = [] := by cases loose <;> rfl
  obtain rfl | rfl := continues.of_nil
  -- the anchor has no brace, whether or not its characters pass the test
  · rcases fuel with _ | _ | _ | fuel <;> simp [toBrace?, closing, shown, nothing]
  · cases fuel <;> rfl

theorem parallel_toBrace? {test : Char → Bool} {blanks : Bool}
    (continues : Continues commented text text') {fuel fuel' : Nat}
    (enough : text.length ≤ fuel) (enough' : text.length ≤ fuel') (done : List Char) :
    Parallel (Together commented text) never (toBrace? test loose blanks fuel done text)
      (toBrace? test loose blanks fuel' done text') := by
  induction fuel generalizing fuel' text text' done with
  | zero =>
      obtain rfl := List.length_eq_zero_iff.mp (Nat.le_zero.mp enough)
      rw [toBrace?_end continues]
      exact .neither
  | succ fuel ih =>
      cases text with
      | nil =>
          rw [toBrace?_end continues]
          exact .neither
      | cons c rest =>
          obtain ⟨rest', rfl, further⟩ := continues.of_cons
          obtain ⟨fuel', rfl⟩ := Nat.exists_eq_add_one_of_ne_zero (show fuel' ≠ 0 by grind)
          have shorter := (suffix_skip loose rest).length_le
          by_cases isBrace : c = '\x7d'
          · subst isBrace
            have left := suffix_skip blanks rest
            exact .both ⟨further.skip blanks, left.trans (List.suffix_cons _ rest)⟩
          · simp only [toBrace?]
            split
            · have left := suffix_skip loose rest
              exact (ih (further.skip loose) (by grind) (by grind) _).within
                (left.trans (List.suffix_cons c rest))
            · exact .neither

theorem parallel_bracedHex? (continues : Continues commented text text') {fuel fuel' : Nat}
    (enough : text.length ≤ fuel) (enough' : text.length ≤ fuel') (done : List Char) :
    Parallel (Together commented text) never (bracedHex? loose fuel done text)
      (bracedHex? loose fuel' done text') := by
  rw [bracedHex?_eq_toBrace?, bracedHex?_eq_toBrace?]
  exact parallel_toBrace? continues enough enough' done

theorem parallel_braced? (continues : Continues commented text text') {fuel fuel' : Nat}
    (enough : text.length ≤ fuel) (enough' : text.length ≤ fuel') (done : List Char) :
    Parallel (Together commented text) never (braced? loose fuel done text)
      (braced? loose fuel' done text') := by
  rw [braced?_eq_toBrace?, braced?_eq_toBrace?]
  exact parallel_toBrace? continues enough enough' done

theorem parallel_hexEscape? (continues : Continues commented text text') {digits : Nat}
    (positive : 0 < digits) : Parallel (Together commented text) never
      (hexEscape? loose digits text) (hexEscape? loose digits text') := by
  refine (continues.skipTo? loose).bind ?_ ?_
  · rintro _ _ @⟨c, rest, rest', further, left⟩
    by_cases isBrace : c = '\x7b'
    · subst isBrace
      have inside := suffix_skip loose rest
      have next := further.tail
      refine (parallel_bracedHex? (next.skip loose) inside.length_le
        (inside.length_le.trans next.length_le) []).bind ?_ fun _ isLost => isLost.elim
      rintro _ _ @⟨code, rest, rest', further, left'⟩
      dsimp only
      cases scalar? code with
      | none => exact .neither
      | some c =>
          change Parallel _ _ (if _ then none else some _) (if _ then none else some _)
          split
          · exact .neither
          · exact .both ⟨further, ((left'.trans inside).trans (List.suffix_cons _ _)).trans left⟩
    · simp only [List.cons.injEq, isBrace, false_and, imp_self, implies_true]
      refine (parallel_fixedHex? further digits []).bind ?_ fun _ isLost => isLost.elim
      rintro _ _ @⟨code, rest, rest', further, left'⟩
      dsimp only
      cases scalar? code with
      | none => exact .neither
      | some c => exact .both ⟨further, left'.trans left⟩
  · rintro _ rfl result isSome
    obtain ⟨more, rfl⟩ := Nat.exists_eq_add_one_of_ne_zero positive.ne'
    cases isSome

/-- The second reading has got past the parenthesis. -/
def beyond {α : Type} : α × List Char → Prop := fun two => two.2 <:+ ['$']

theorem parallel_propertyEscape? (continues : Continues commented text text') (negated : Bool) :
    Parallel (Together commented text) beyond (propertyEscape? loose negated text)
      (propertyEscape? loose negated text') := by
  refine (continues.skipTo? loose).bind ?_ ?_
  · rintro _ _ @⟨c, rest, rest', further, left⟩
    by_cases isBrace : c = '\x7b'
    · subst isBrace
      have inside := suffix_skip loose rest
      have next := further.tail
      refine (parallel_braced? (next.skip loose) inside.length_le
        (inside.length_le.trans next.length_le) []).bind ?_ fun _ isLost => isLost.elim
      rintro _ _ @⟨name, rest, rest', further, left'⟩
      exact .both ⟨further, ((left'.trans inside).trans (List.suffix_cons _ _)).trans left⟩
    · simp only
      split
      · exact .neither
      · exact .both ⟨further.tail, (List.suffix_cons _ _).trans left⟩
  · rintro _ rfl result isResult
    cases isResult
    exact List.suffix_refl _

/-- A word boundary in front of a brace, which opens neither the name of a boundary nor, as it has
    the parenthesis behind it, the bounds of a repetition. -/
def boundaryBeforeBrace (loose : Bool) : Primitive × List Char → Prop := fun two =>
  two.1 = .assertion .wordBoundary ∧ ∃ rest, two.2 = '\x7b' :: rest ∧ skip loose rest = closing

/-- A word boundary with a name, after the opening brace. -/
def namedBoundary? (loose : Bool) (text : List Char) : Option (Primitive × List Char) :=
  match boundaryName loose text.length [] text with
  | (name, '\x7d' :: rest) =>
      (boundary? (String.ofList name)).map fun kind => (.assertion kind, rest)
  | _ => none

theorem parallel_namedBoundary? (continues : Continues commented text text') :
    Parallel (Together commented text) never (namedBoundary? loose text)
      (namedBoundary? loose text') := by
  have name : Together commented text (boundaryName loose text.length [] text)
      (boundaryName loose text'.length [] text') :=
    together_boundaryName continues le_rfl continues.length_le []
  unfold namedBoundary?
  match boundaryName loose text.length [] text, boundaryName loose text'.length [] text',
    name with
  | _, _, @Together.intro _ _ _ name rest rest' further left =>
      cases rest with
      | nil => obtain rfl | rfl := further.of_nil <;> exact .neither
      | cons c rest =>
          obtain ⟨rest', rfl, next⟩ := further.of_cons
          by_cases isBrace : c = '\x7d'
          · subst isBrace
            change Parallel _ _ (Option.map (fun kind => (Primitive.assertion kind, rest)) _)
              (Option.map (fun kind => (Primitive.assertion kind, rest')) _)
            cases boundary? (String.ofList name) with
            | none => exact .neither
            | some kind => exact .both ⟨next, (List.suffix_cons _ rest).trans left⟩
          · simp only [Prod.mk.injEq, List.cons.injEq, isBrace, false_and, and_false, imp_self,
              implies_true]
            exact .neither

theorem parallel_boundaryEscape? (continues : Continues commented text text') :
    Parallel (Together commented text) (boundaryBeforeBrace loose) (boundaryEscape? loose text)
      (boundaryEscape? loose text') := by
  cases text with
  | nil => obtain rfl | rfl := continues.of_nil <;> exact .both ⟨continues, List.suffix_refl _⟩
  | cons c rest =>
      obtain ⟨rest', rfl, next⟩ := continues.of_cons
      by_cases isBrace : c = '\x7b'
      · subst isBrace
        have inside := suffix_skip loose rest
        have further := next.skip loose
        rw [boundaryEscape?, boundaryEscape?]
        generalize skip loose rest = more at inside further
        generalize isSkipped : skip loose rest' = more' at further
        cases more with
        | nil =>
            obtain rfl | rfl := further.of_nil
            · exact .second ⟨rfl, rest', rfl, isSkipped⟩
            · exact .neither
        | cons c more =>
            obtain ⟨more', rfl, _⟩ := further.of_cons
            dsimp only
            split
            · have named : Parallel _ never (namedBoundary? loose (c :: more))
                  (namedBoundary? loose (c :: more')) := parallel_namedBoundary? further
              exact (named.within (inside.trans (List.suffix_cons _ rest))).weaken nofun
            · exact .both ⟨continues, List.suffix_refl _⟩
      · simp only [boundaryEscape?, List.cons.injEq, isBrace, false_and, imp_self, implies_true]
        exact .both ⟨continues, List.suffix_refl _⟩

/-- What the second reading may have got where the first has no escape left. -/
def escapeLost (loose : Bool) : Primitive × List Char → Prop := fun two =>
  beyond two ∨ boundaryBeforeBrace loose two

theorem parallel_escape? (continues : Continues commented text text') :
    Parallel (Together commented text) (escapeLost loose) (escape? loose text)
      (escape? loose text') := by
  cases text with
  | nil =>
      obtain rfl | rfl := continues.of_nil
      · exact .second (.inl (List.suffix_refl _))
      · exact .neither
  | cons c rest =>
      obtain ⟨rest', rfl, next⟩ := continues.of_cons
      have left := List.suffix_cons c rest
      have plain (p : Primitive) : Parallel (Together commented (c :: rest)) (escapeLost loose)
          (some (p, rest)) (some (p, rest')) := .both ⟨next, left⟩
      have hex {digits : Nat} (positive : 0 < digits) :
          Parallel (Together commented (c :: rest)) (escapeLost loose)
            (hexEscape? loose digits rest) (hexEscape? loose digits rest') :=
        ((parallel_hexEscape? next positive).within left).weaken nofun
      have property (negated : Bool) :
          Parallel (Together commented (c :: rest)) (escapeLost loose)
            (propertyEscape? loose negated rest) (propertyEscape? loose negated rest') :=
        ((parallel_propertyEscape? next negated).within left).weaken fun _ => .inl
      have boundary :
          Parallel (Together commented (c :: rest)) (escapeLost loose)
            (boundaryEscape? loose rest) (boundaryEscape? loose rest') :=
        ((parallel_boundaryEscape? next).within left).weaken fun _ => .inr
      unfold escape?
      dsimp only
      split
      all_goals try first
        | exact plain _ | exact hex (by decide) | exact property _ | exact boundary
      split
      · exact plain _
      · exact .neither

/-! ## Switches and names of groups -/

/-- The second reading has stopped in front of the parenthesis. -/
def atParenthesis {α : Type} : α × List Char → Prop := fun two => two.2 = closing

theorem parallel_flags? (continues : Continues commented text text') (negated dangling : Bool)
    (done : FlagChanges) : Parallel (Together commented text) atParenthesis
      (flags? negated dangling done text) (flags? negated dangling done text') := by
  induction text generalizing text' negated dangling done with
  | nil =>
      obtain rfl | rfl := continues.of_nil
      · cases dangling with
        | false => exact .second rfl
        | true => exact .neither
      · exact .neither
  | cons c rest ih =>
      obtain ⟨rest', rfl, next⟩ := continues.of_cons
      have further (negated dangling : Bool) (done : FlagChanges) :
          Parallel (Together commented (c :: rest)) atParenthesis
            (flags? negated dangling done rest) (flags? negated dangling done rest') :=
        (ih next negated dangling done).within (List.suffix_cons c rest)
      rw [flags?, flags?]
      split
      · split
        · exact .neither
        · exact .both ⟨continues, List.suffix_refl _⟩
      split
      · split
        · exact .neither
        · exact further true true done
      cases flag? c with
      | none => exact .neither
      | some flag =>
          dsimp only
          split
          · exact .neither
          · exact further negated false _

/-- A run of characters that the anchor could be part of goes up to the same character in both
    readings, or up to the end in both. -/
theorem Continues.takeWhile (continues : Continues commented text text') (test : Char → Bool)
    (passes : closing.all test = true) :
    (text.dropWhile test = [] ∧ text'.dropWhile test = []) ∨
      text'.takeWhile test = text.takeWhile test ∧
        Ahead commented text (text.dropWhile test) (text'.dropWhile test) := by
  induction text generalizing text' with
  | nil =>
      refine .inl ⟨rfl, ?_⟩
      obtain rfl | rfl := continues.of_nil
      · have passes : test ')' = true ∧ test '$' = true := by simpa [closing] using passes
        simp [closing, List.dropWhile, passes]
      · rfl
  | cons c rest ih =>
      obtain ⟨rest', rfl, next⟩ := continues.of_cons
      by_cases passes : test c = true
      · simp only [List.dropWhile_cons_of_pos passes, List.takeWhile_cons_of_pos passes]
        obtain ending | ⟨taken, ahead⟩ := ih next
        · exact .inl ending
        · refine .inr ⟨by rw [taken], ?_⟩
          match rest.dropWhile test, rest'.dropWhile test, ahead with
          | _, _, .intro further left => exact ⟨further, left.trans (List.suffix_cons c rest)⟩
      · simp only [List.dropWhile_cons_of_neg passes, List.takeWhile_cons_of_neg passes]
        exact .inr ⟨trivial, ⟨continues, List.suffix_refl _⟩⟩

theorem parallel_groupName? (continues : Continues commented text text') :
    Parallel (Together commented text) never (groupName? text) (groupName? text') := by
  unfold groupName?
  obtain ⟨one, two⟩ | ⟨taken, ahead⟩ := continues.takeWhile (· != '>') (by decide)
  · rw [one, two]
    cases text.takeWhile (· != '>') <;> cases text'.takeWhile (· != '>') <;> exact .neither
  · rw [taken]
    match text.takeWhile (· != '>'), text.dropWhile (· != '>'), text'.dropWhile (· != '>'),
      ahead with
    | [], _, _, _ => exact .neither
    | first :: name, _, _, .intro (c := c) further left =>
        by_cases isEnd : c = '>'
        · subst isEnd
          change Parallel _ _ (if _ then some (_, _) else none) (if _ then some (_, _) else none)
          split
          · exact .both ⟨further.tail, (List.suffix_cons _ _).trans left⟩
          · exact .neither
        · simp only [List.cons.injEq, isEnd, false_and, imp_self, implies_true]
          exact .neither

end Scanners

end JsonQuery.Pattern

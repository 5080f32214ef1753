import JsonQuery.Pattern.Parser
import JsonQuery.Proofs.PatternScanning

/-! # Reading in front of an anchor

Classes, groups and sequences are read side by side, as the pieces they consist of are. What the
second reading may get past the end of a pattern is never enough to close a class or a group.
-/

namespace JsonQuery.Pattern

section Readers

variable {commented : Prop} {loose : Bool} {text text' : List Char}

/-! ## Classes -/

/-- A word between colons and brackets, from its first letter on. -/
def colonWord? (negated : Bool) (text : List Char) : Option (CharClass × List Char) :=
  match text.dropWhile (· != ':') with
  | ':' :: ']' :: after =>
      (asciiClass? (String.ofList (text.takeWhile (· != ':')))).map fun kind =>
        (.ascii kind negated, after)
  | _ => none

theorem colonClass?_colon (rest : List Char) : colonClass? (':' :: rest) =
    let (negated, rest) :=
      match rest with
      | '^' :: rest => (true, rest)
      | rest => (false, rest)
    colonWord? negated rest := rfl

theorem parallel_colonWord? (continues : Continues commented text text') (negated : Bool) :
    Parallel (Together commented text) never (colonWord? negated text)
      (colonWord? negated text') := by
  unfold colonWord?
  obtain ⟨one, two⟩ | ⟨taken, ahead⟩ := continues.takeWhile (· != ':') (by decide)
  · rw [one, two]
    exact .neither
  · rw [taken]
    match text.dropWhile (· != ':'), text'.dropWhile (· != ':'), ahead with
    | _, _, @Ahead.intro _ _ c rest rest' further left =>
        by_cases isColon : c = ':'
        · subst isColon
          cases rest with
          | nil => obtain rfl | rfl := further.tail.of_nil <;> exact .neither
          | cons d after =>
              obtain ⟨after', rfl, next⟩ := further.tail.of_cons
              by_cases isBracket : d = ']'
              · subst isBracket
                change Parallel _ _
                  (Option.map (fun kind => (CharClass.ascii kind negated, after)) _)
                  (Option.map (fun kind => (CharClass.ascii kind negated, after')) _)
                cases asciiClass? (String.ofList (text.takeWhile (· != ':'))) with
                | none => exact .neither
                | some kind =>
                    have inside : after <:+ ':' :: ']' :: after := ⟨[':', ']'], rfl⟩
                    exact .both ⟨next, inside.trans left⟩
              · simp only [List.cons.injEq, isBracket, false_and, and_false, imp_self, implies_true]
                exact .neither
        · simp only [List.cons.injEq, isColon, false_and, imp_self, implies_true]
          exact .neither

theorem parallel_colonClass? (continues : Continues commented text text') :
    Parallel (Together commented text) never (colonClass? text) (colonClass? text') := by
  cases text with
  | nil => obtain rfl | rfl := continues.of_nil <;> exact .neither
  | cons c rest =>
      obtain ⟨rest', rfl, next⟩ := continues.of_cons
      by_cases isColon : c = ':'
      · subst isColon
        rw [colonClass?_colon, colonClass?_colon]
        refine Parallel.within ?_ (List.suffix_cons ':' rest)
        cases rest with
        | nil =>
            obtain rfl | rfl := next.of_nil
            · exact parallel_colonWord? next false
            · exact .neither
        | cons d rest =>
            obtain ⟨rest', rfl, further⟩ := next.of_cons
            by_cases isCaret : d = '^'
            · subst isCaret
              exact (parallel_colonWord? further true).within (List.suffix_cons '^' rest)
            · simp only [List.cons.injEq, isCaret, false_and, imp_self, implies_true]
              exact parallel_colonWord? next false
      · simp only [colonClass?, List.cons.injEq, isColon, false_and, imp_self, implies_true]
        exact .neither

theorem parallel_classPrimitive? {c : Char} {rest rest' : List Char}
    (continues : Continues commented (c :: rest) (c :: rest')) :
    Parallel (Together commented rest) (escapeLost loose) (classPrimitive? loose (c :: rest))
      (classPrimitive? loose (c :: rest')) := by
  by_cases isBackslash : c = '\\'
  · subst isBackslash
    exact parallel_escape? continues.tail
  · simp only [classPrimitive?]
    exact .both ⟨continues.tail, List.suffix_refl _⟩

theorem firstShown_eq (continues : Continues commented text text') (afterSign : Bool) :
    firstShown afterSign text' = firstShown afterSign text ∨
      firstShown afterSign text = none ∧ firstShown afterSign text' = some ')' := by
  induction text generalizing text' afterSign with
  | nil =>
      obtain rfl | rfl := continues.of_nil
      · exact .inr ⟨rfl, by cases afterSign <;> rfl⟩
      · exact .inl rfl
  | cons c rest ih =>
      obtain ⟨rest', rfl, next⟩ := continues.of_cons
      rw [firstShown, firstShown]
      split
      · exact ih next afterSign
      split
      · exact ih next true
      · exact .inl rfl

/-- Looking ahead meets a bracket or a hyphen in both readings or in neither. -/
theorem Continues.lookAhead (continues : Continues commented text text') :
    (lookAhead loose text' = some ']' ∨ lookAhead loose text' = some '-') ↔
      (lookAhead loose text = some ']' ∨ lookAhead loose text = some '-') := by
  cases text with
  | nil =>
      obtain rfl | rfl := continues.of_nil
      · cases loose <;> decide
      · exact Iff.rfl
  | cons c rest =>
      obtain ⟨rest', rfl, _⟩ := continues.of_cons
      cases loose with
      | false => exact Iff.rfl
      | true =>
          unfold Pattern.lookAhead
          rw [if_pos rfl, if_pos rfl]
          obtain same | ⟨nothing, parenthesis⟩ := firstShown_eq continues false
          · rw [same]
            exact Iff.rfl
          · rw [nothing, parenthesis]
            -- a bracket or a hyphen in front would have been shown
            have shown (d : Char) (notBlank : isBlank d = false) (notSign : (d == '#') = false) :
                c ≠ d := by
              rintro rfl
              simp [firstShown, notBlank, notSign] at nothing
            have notBracket := shown ']' (by decide) (by decide)
            have notHyphen := shown '-' (by decide) (by decide)
            simp [notBracket, notHyphen]

/-- The second reading is past the end of the pattern. -/
def inAnchor {α : Type} : α × List Char → Prop := fun two => two.2 <:+ closing

theorem beyond.inAnchor {α : Type} {two : α × List Char} (isBeyond : beyond two) :
    inAnchor two :=
  List.IsSuffix.trans isBeyond (List.suffix_cons ')' ['$'])

theorem snd_of_bind_pure {α β : Type} {result : Option α} {rest : β} {two : α × β}
    (isSome : (result >>= fun part => pure (part, rest)) = some two) : two.2 = rest := by
  cases result with
  | none => cases isSome
  | some part =>
      cases isSome
      rfl

theorem range?_boundaryBeforeBrace {first : Primitive} {two : Primitive × List Char}
    (isBoundary : boundaryBeforeBrace loose two) : range? first two.1 = none := by
  rw [isBoundary.1]
  cases first <;> rfl

theorem parallel_elementOrRange? {c : Char} {rest rest' : List Char}
    (continues : Continues commented (c :: rest) (c :: rest')) :
    Parallel (Together commented rest) inAnchor (elementOrRange? loose (c :: rest))
      (elementOrRange? loose (c :: rest')) := by
  refine (parallel_classPrimitive? continues).bind ?_ ?_
  · rintro _ _ @⟨first, after, after', further, left⟩
    dsimp only
    have further := further.skip loose
    have left := (suffix_skip loose after).trans left
    generalize skip loose after = more at further left
    generalize skip loose after' = more' at further
    have alone : Parallel (Together commented rest) inAnchor
        (first.part? >>= fun part => pure (part, more))
        (first.part? >>= fun part => pure (part, more')) := by
      cases first.part? with
      | none => exact .neither
      | some part => exact .both ⟨further, left⟩
    cases more with
    | nil =>
        refine .of_none fun two isSome => ?_
        obtain rfl | rfl := further.of_nil
        · rw [inAnchor, snd_of_bind_pure isSome]
          exact List.suffix_refl _
        · cases isSome
    | cons d more =>
        obtain ⟨more', rfl, next⟩ := further.of_cons
        by_cases isHyphen : d = '-'
        · subst isHyphen
          simp only [next.lookAhead]
          split
          · exact alone
          · refine (next.skipTo? loose).bind ?_ ?_
            · rintro _ _ ⟨further, left'⟩
              refine (parallel_classPrimitive? further).bind ?_ ?_
              · rintro _ _ @⟨last, rest, rest', further, left''⟩
                dsimp only
                cases range? first last with
                | none => exact .neither
                | some part =>
                    exact .both ⟨further, (left''.trans (List.suffix_cons _ _)).trans
                      (left'.trans ((List.suffix_cons _ _).trans left))⟩
              · rintro two (isBeyond | isBoundary) result isSome
                · rw [inAnchor, snd_of_bind_pure isSome]
                  exact isBeyond.inAnchor
                · rw [range?_boundaryBeforeBrace isBoundary] at isSome
                  cases isSome
            · rintro _ rfl result isSome
              rw [inAnchor, snd_of_bind_pure isSome]
              exact List.suffix_cons ')' ['$']
        · simp only [List.cons.injEq, isHyphen, false_and, imp_self, implies_true]
          exact alone
  · rintro ⟨first, rest'⟩ (isBeyond | ⟨isBoundary, after, isBrace, _⟩) result isSome
    · obtain rfl | isEmpty := List.suffix_cons_iff.mp isBeyond
      · have isSome : (first.part? >>= fun part => pure (part, ['$'])) = some result := by
          cases loose <;> exact isSome
        rw [inAnchor, snd_of_bind_pure isSome]
        exact ⟨[')'], rfl⟩
      · obtain rfl := List.suffix_nil.mp isEmpty
        cases loose <;> cases isSome
    · dsimp only at isBoundary isBrace
      subst isBoundary isBrace
      cases loose <;> cases isSome

theorem parallel_setOperator? {c : Char} {rest rest' : List Char}
    (continues : Continues commented (c :: rest) (c :: rest')) :
    Parallel (Together commented rest) never (setOperator? (c :: rest))
      (setOperator? (c :: rest')) := by
  cases rest with
  | nil =>
      have nothing : setOperator? [c] = none := by simp [setOperator?]
      have nothing' : setOperator? (c :: closing) = none := by simp [setOperator?, closing]
      obtain rfl | rfl := continues.tail.of_nil
      · rw [nothing, nothing']
        exact .neither
      · rw [nothing]
        exact .neither
  | cons d rest =>
      obtain ⟨rest', rfl, next⟩ := continues.tail.of_cons
      have both (operator : SetOperator) : Parallel (Together commented (d :: rest)) never
          (some (operator, rest)) (some (operator, rest')) :=
        .both ⟨next, List.suffix_cons d rest⟩
      by_cases isAnd : c = '&' ∧ d = '&'
      · obtain ⟨rfl, rfl⟩ := isAnd
        exact both _
      by_cases isMinus : c = '-' ∧ d = '-'
      · obtain ⟨rfl, rfl⟩ := isMinus
        exact both _
      by_cases isTilde : c = '~' ∧ d = '~'
      · obtain ⟨rfl, rfl⟩ := isTilde
        exact both _
      have nothing (rest : List Char) : setOperator? (c :: d :: rest) = none := by
        unfold setOperator?
        grind
      rw [nothing, nothing]
      exact .neither

theorem leadingHyphens_end (continues : Continues commented [] text') (fuel : Nat)
    (done : List CharClass) : leadingHyphens loose fuel done text' = (done, text') := by
  obtain rfl | rfl := continues.of_nil <;> cases fuel <;> rfl

theorem together_leadingHyphens (continues : Continues commented text text') {fuel fuel' : Nat}
    (enough : text.length ≤ fuel) (enough' : text.length ≤ fuel') (done : List CharClass) :
    Together commented text (leadingHyphens loose fuel done text)
      (leadingHyphens loose fuel' done text') := by
  induction fuel generalizing fuel' text text' done with
  | zero =>
      obtain rfl := List.length_eq_zero_iff.mp (Nat.le_zero.mp enough)
      rw [leadingHyphens_end continues]
      exact ⟨continues, List.suffix_refl _⟩
  | succ fuel ih =>
      cases text with
      | nil =>
          rw [leadingHyphens_end continues]
          exact ⟨continues, List.suffix_refl _⟩
      | cons c rest =>
          obtain ⟨rest', rfl, next⟩ := continues.of_cons
          obtain ⟨fuel', rfl⟩ := Nat.exists_eq_add_one_of_ne_zero (show fuel' ≠ 0 by grind)
          by_cases isHyphen : c = '-'
          · subst isHyphen
            have left := suffix_skip loose rest
            have shorter := left.length_le
            rw [leadingHyphens, leadingHyphens]
            exact (ih (next.skip loose) (by grind) (by grind) _).within
              (left.trans (List.suffix_cons '-' rest))
          · simp only [leadingHyphens, List.cons.injEq, isHyphen, false_and, imp_self,
              implies_true]
            exact ⟨continues, List.suffix_refl _⟩

/-- The second reading has got two things and stopped in front of the parenthesis. -/
def twoAtParenthesis {α β : Type} : α × β × List Char → Prop := fun two => two.2.2 = closing

def classStartFrom? (loose negated : Bool) (text : List Char) :
    Option (Bool × List CharClass × List Char) :=
  let (hyphens, text) := leadingHyphens loose text.length [] text
  match hyphens, text with
  | _, [] => none
  | [], ']' :: rest => do
      let rest ← skipTo? loose rest
      return (negated, [.literal ⟨']', false⟩], rest)
  | hyphens, text => return (negated, hyphens, text)

theorem classStart?_eq (loose : Bool) (text : List Char) : classStart? loose text =
    skipTo? loose text >>= fun text =>
      match text with
      | '^' :: rest => classStartFrom? loose true (skip loose rest)
      | text => classStartFrom? loose false text := by
  refine congrArg (skipTo? loose text >>= ·) (funext fun text => ?_)
  cases text with
  | nil => rfl
  | cons c rest =>
      by_cases isCaret : c = '^'
      · subst isCaret
        rfl
      · simp only [List.cons.injEq, isCaret, false_and, imp_self, implies_true]
        rfl

theorem parallel_classStartFrom? (continues : Continues commented text text') (negated : Bool) :
    Parallel (TogetherTwo commented text) twoAtParenthesis (classStartFrom? loose negated text)
      (classStartFrom? loose negated text') := by
  have hyphens : Together commented text (leadingHyphens loose text.length [] text)
      (leadingHyphens loose text'.length [] text') :=
    together_leadingHyphens continues le_rfl continues.length_le []
  unfold classStartFrom?
  match leadingHyphens loose text.length [] text, leadingHyphens loose text'.length [] text',
    hyphens with
  | _, _, @Together.intro _ _ _ hyphens rest rest' further left =>
      cases rest with
      | nil =>
          refine .of_none fun two isSome => ?_
          obtain rfl | rfl := further.of_nil
          · cases hyphens <;> cases isSome <;> rfl
          · cases hyphens <;> cases isSome
      | cons c rest =>
          obtain ⟨rest', rfl, next⟩ := further.of_cons
          have shown : Parallel (TogetherTwo commented text) twoAtParenthesis
              (some (negated, hyphens, c :: rest)) (some (negated, hyphens, c :: rest')) :=
            .both ⟨rfl, further, left⟩
          by_cases isBracket : c = ']'
          · subst isBracket
            cases hyphens with
            | cons => exact shown
            | nil =>
                refine (next.skipTo? loose).bind ?_ ?_
                · rintro _ _ ⟨further, left'⟩
                  exact .both ⟨rfl, further, left'.trans ((List.suffix_cons ']' rest).trans left)⟩
                · rintro _ rfl _ ⟨⟩
                  rfl
          · simp only [List.cons.injEq, isBracket, false_and, imp_self, implies_true]
            exact shown

theorem parallel_classStart? (continues : Continues commented text text') :
    Parallel (TogetherTwo commented text) twoAtParenthesis (classStart? loose text)
      (classStart? loose text') := by
  rw [classStart?_eq, classStart?_eq]
  have start {negated : Bool} {rest rest' : List Char} (further : Continues commented rest rest')
      (left : rest <:+ text) :
      Parallel (TogetherTwo commented text) twoAtParenthesis (classStartFrom? loose negated rest)
        (classStartFrom? loose negated rest') := by
    match classStartFrom? loose negated rest, classStartFrom? loose negated rest',
      parallel_classStartFrom? further negated with
    | _, _, .both ⟨same, both⟩ => exact .both ⟨same, both.within left⟩
    | _, _, .neither => exact .neither
    | _, _, .second isLost => exact .second isLost
  refine (continues.skipTo? loose).bind ?_ ?_
  · rintro _ _ @⟨c, rest, rest', further, left⟩
    by_cases isCaret : c = '^'
    · subst isCaret
      exact start (further.tail.skip loose)
        ((suffix_skip loose rest).trans ((List.suffix_cons '^' rest).trans left))
    · simp only [List.cons.injEq, isCaret, false_and, imp_self, implies_true]
      exact start further left
  · rintro _ rfl result isSome
    cases isSome
    rfl

theorem classRest?_inAnchor (within : text <:+ closing) (fuel : Nat) (pending : Pending)
    (parts : List CharClass) : classRest? loose fuel pending parts text = none := by
  have dollar (fuel : Nat) (parts : List CharClass) :
      classRest? loose fuel pending parts ['$'] = none := by
    cases fuel with
    | zero => rfl
    | succ fuel => cases loose <;> rfl
  cases fuel with
  | zero => rfl
  | succ fuel =>
      obtain rfl | within := List.suffix_cons_iff.mp within
      · have skipped : classRest? loose (fuel + 1) pending parts closing =
            classRest? loose fuel pending (.literal ⟨')', false⟩ :: parts) ['$'] := by
          cases loose <;> rfl
        exact skipped.trans (dollar _ _)
      obtain rfl | within := List.suffix_cons_iff.mp within
      · exact dollar _ _
      · obtain rfl := List.suffix_nil.mp within
        cases loose <;> rfl

/-- What stands next in a class. -/
inductive ClassItem where
  | close
  | part (part : CharClass)
  | operator (operator : SetOperator)

def innerClass? (loose : Bool) (fuel : Nat) (text : List Char) : Option (CharClass × List Char) :=
  match colonClass? text with
  | some found => some found
  | none => do
      let (negated, first, rest) ← classStart? loose text
      let (body, rest) ← classRest? loose fuel none first rest
      return (.bracketed negated body, rest)

/-- What stands next in a class, and what is left behind it. -/
def classItem? (loose : Bool) (fuel : Nat) (text : List Char) : Option (ClassItem × List Char) :=
  match text with
  | [] => none
  | ']' :: rest => some (.close, rest)
  | '[' :: rest => (innerClass? loose fuel rest).map fun (part, rest) => (.part part, rest)
  | text =>
      match setOperator? text with
      | some (operator, rest) => some (.operator operator, rest)
      | none => (elementOrRange? loose text).map fun (part, rest) => (.part part, rest)

def afterClassItem? (loose : Bool) (fuel : Nat) (pending : Pending) (parts : List CharClass) :
    ClassItem × List Char → Option (CharClass × List Char)
  | (.close, rest) => some (joinPending pending parts, rest)
  | (.part part, rest) => classRest? loose fuel pending (part :: parts) rest
  | (.operator operator, rest) =>
      classRest? loose fuel (some (operator, joinPending pending parts)) [] rest

theorem classRest?_succ (loose : Bool) (fuel : Nat) (pending : Pending) (parts : List CharClass)
    (text : List Char) : classRest? loose (fuel + 1) pending parts text =
      classItem? loose fuel (skip loose text) >>= afterClassItem? loose fuel pending parts := by
  unfold classRest?
  generalize skip loose text = text
  dsimp only
  split
  · rfl
  · rfl
  · next rest =>
      change _ = (innerClass? loose fuel rest).map (fun (part, rest) =>
        (ClassItem.part part, rest)) >>= _
      unfold innerClass?
      cases colonClass? rest with
      | some found => rfl
      | none =>
          dsimp only
          cases classStart? loose rest with
          | none => rfl
          | some three =>
              obtain ⟨negated, first, rest⟩ := three
              simp only [Option.bind_eq_bind, Option.bind_some]
              cases classRest? loose fuel none first rest <;> rfl
  · have isOther : classItem? loose fuel text =
        match setOperator? text with
        | some (operator, rest) => some (.operator operator, rest)
        | none => (elementOrRange? loose text).map fun (part, rest) => (.part part, rest) := by
      unfold classItem?
      split <;> first | rfl | grind
    rw [isOther]
    cases setOperator? text with
    | some => rfl
    | none => cases elementOrRange? loose text <;> rfl

/-- Both readings have got the same behind the first character of a text. -/
inductive Behind {α : Type} (commented : Prop) :
    List Char → α × List Char → α × List Char → Prop where
  | intro {c : Char} {rest : List Char} {one two : α × List Char}
      (together : Together commented rest one two) : Behind commented (c :: rest) one two

/-- What the second reading may have got where the first has nothing left in a class. -/
inductive ClassItemLost : ClassItem × List Char → Prop where
  | part {part : CharClass} {rest : List Char} (within : rest <:+ closing) :
      ClassItemLost (.part part, rest)

section Inner

variable {fuel fuel' : Nat} (deeper : ∀ {later later' : List Char},
    Continues commented later later' → later.length < fuel → later.length < fuel' →
    ∀ (pending : Pending) (parts : List CharClass), Parallel (Together commented later) never
      (classRest? loose fuel pending parts later) (classRest? loose fuel' pending parts later'))

include deeper

theorem parallel_innerClass? (continues : Continues commented text text')
    (enough : text.length < fuel) (enough' : text.length < fuel') :
    Parallel (Together commented text) never (innerClass? loose fuel text)
      (innerClass? loose fuel' text') := by
  unfold innerClass?
  match colonClass? text, colonClass? text', parallel_colonClass? continues with
  | _, _, .both isTogether => exact .both isTogether
  | _, _, .neither =>
      refine (parallel_classStart? continues).bind ?_ ?_
      · rintro ⟨negated, one⟩ ⟨_, two⟩ ⟨rfl, @⟨first, later, later', further, left⟩⟩
        have shorter := left.length_le
        refine (deeper further (by omega) (by omega) none first).bind ?_ fun _ isLost => isLost.elim
        rintro _ _ ⟨further, left'⟩
        exact .both ⟨further, left'.trans left⟩
      · -- an inner class has begun at the anchor, which does not close it
        rintro ⟨negated, first, _⟩ rfl result isSome
        dsimp only at isSome
        rw [classRest?_inAnchor (List.suffix_refl _)] at isSome
        cases isSome

theorem parallel_classItem? (continues : Continues commented text text')
    (enough : text.length ≤ fuel) (enough' : text.length ≤ fuel') :
    Parallel (Behind commented text) ClassItemLost (classItem? loose fuel text)
      (classItem? loose fuel' text') := by
  cases text with
  | nil =>
      obtain rfl | rfl := continues.of_nil
      · have read : classItem? loose fuel' closing =
            some (.part (.literal ⟨')', false⟩), ['$']) := by
          cases loose <;> rfl
        rw [read]
        exact .second (.part ⟨[')'], rfl⟩)
      · exact .neither
  | cons c rest =>
      obtain ⟨rest', rfl, next⟩ := continues.of_cons
      rw [List.length_cons] at enough enough'
      by_cases isBracket : c = ']'
      · subst isBracket
        exact .both ⟨⟨next, List.suffix_refl _⟩⟩
      by_cases isOpening : c = '['
      · subst isOpening
        refine (parallel_innerClass? deeper next enough enough').map ?_ fun _ isLost => isLost.elim
        rintro _ _ ⟨further, left⟩
        exact ⟨⟨further, left⟩⟩
      · simp only [classItem?, List.cons.injEq, isBracket, isOpening, false_and, imp_self,
          implies_true]
        match setOperator? (c :: rest), setOperator? (c :: rest'),
          parallel_setOperator? continues with
        | _, _, .both ⟨further, left⟩ => exact .both ⟨⟨further, left⟩⟩
        | _, _, .neither =>
            refine (parallel_elementOrRange? continues).map ?_ fun _ within => .part within
            rintro _ _ ⟨further, left⟩
            exact ⟨⟨further, left⟩⟩

end Inner

theorem parallel_classRest? (continues : Continues commented text text') {fuel fuel' : Nat}
    (enough : text.length < fuel) (enough' : text.length < fuel') (pending : Pending)
    (parts : List CharClass) : Parallel (Together commented text) never
      (classRest? loose fuel pending parts text) (classRest? loose fuel' pending parts text') := by
  induction fuel generalizing fuel' text text' pending parts with
  | zero => exact absurd enough (Nat.not_lt_zero _)
  | succ fuel ih =>
      obtain ⟨fuel', rfl⟩ := Nat.exists_eq_add_one_of_ne_zero (show fuel' ≠ 0 by grind)
      have left := suffix_skip loose text
      have shorter := left.length_le
      rw [classRest?_succ, classRest?_succ]
      refine Parallel.within ?_ left
      refine (parallel_classItem? (fun further enough enough' => ih further enough enough')
        (continues.skip loose) (by omega) (by omega)).bind ?_ ?_
      · intro one two behind
        generalize skip loose text = text at shorter behind
        obtain @⟨c, rest, _, _, @⟨item, later, later', further, left⟩⟩ := behind
        have shorter' := left.length_le
        rw [List.length_cons] at shorter
        refine Parallel.within ?_ (List.suffix_cons c rest)
        have go (pending : Pending) (parts : List CharClass) :
            Parallel (Together commented rest) never (classRest? loose fuel pending parts later)
              (classRest? loose fuel' pending parts later') :=
          (ih further (by omega) (by omega) pending parts).within left
        cases item with
        | close => exact .both ⟨further, left⟩
        | part part => exact go _ _
        | operator operator => exact go _ _
      · rintro _ ⟨within⟩ result isSome
        cases (classRest?_inAnchor within _ _ _).symm.trans isSome

theorem parallel_charClass? (continues : Continues commented text text') :
    Parallel (Together commented text) never (charClass? loose text) (charClass? loose text') := by
  unfold charClass?
  refine (parallel_classStart? continues).bind ?_ ?_
  · rintro ⟨negated, one⟩ ⟨_, two⟩ ⟨rfl, @⟨first, rest, rest', further, left⟩⟩
    dsimp only
    refine ((parallel_classRest? further (Nat.lt_succ_self _)
      (Nat.lt_succ_of_le further.length_le) none first).bind ?_ fun _ isLost => isLost.elim)
    rintro _ _ ⟨further, left'⟩
    exact .both ⟨further, left'.trans left⟩
  · rintro ⟨negated, first, _⟩ rfl result isSome
    dsimp only at isSome
    rw [classRest?_inAnchor (List.suffix_refl _)] at isSome
    cases isSome

/-! ## Groups -/

/-- The start of a group behind its switches. -/
def switched? (changes : FlagChanges) : List Char → Option (GroupStart × List Char)
  | ':' :: rest => some (.withFlags changes, rest)
  | ')' :: rest => if changes.isEmpty then none else some (.directive changes, rest)
  | _ => none

theorem parallel_switched? (continues : Continues commented text text') (changes : FlagChanges) :
    Parallel (Together commented text) beyond (switched? changes text)
      (switched? changes text') := by
  cases text with
  | nil =>
      refine .of_none fun two isSome => ?_
      obtain rfl | rfl := continues.of_nil
      · cases changes with
        | nil => cases isSome
        | cons =>
            cases isSome
            exact List.suffix_refl ['$']
      · cases isSome
  | cons c rest =>
      obtain ⟨rest', rfl, next⟩ := continues.of_cons
      have both (start : GroupStart) : Parallel (Together commented (c :: rest)) beyond
          (some (start, rest)) (some (start, rest')) := .both ⟨next, List.suffix_cons c rest⟩
      by_cases isColon : c = ':'
      · subst isColon
        exact both _
      by_cases isClosing : c = ')'
      · subst isClosing
        cases changes with
        | nil => exact .neither
        | cons => exact both _
      · have nothing (rest : List Char) : switched? changes (c :: rest) = none := by
          simp [switched?, isColon, isClosing]
        rw [nothing, nothing]
        exact .neither

/-- The start of a group from its switches on. -/
def switches? (text : List Char) : Option (GroupStart × List Char) :=
  flags? false false [] text >>= fun (changes, rest) => switched? changes rest

theorem switches?_eq (text : List Char) : switches? text =
    match flags? false false [] text with
    | some (changes, ':' :: rest) => some (.withFlags changes, rest)
    | some ([], ')' :: _) => none
    | some (changes, ')' :: rest) => some (.directive changes, rest)
    | _ => none := by
  unfold switches?
  cases flags? false false [] text with
  | none => rfl
  | some two =>
      obtain ⟨changes, rest⟩ := two
      change switched? changes rest = _
      unfold switched?
      split <;> cases changes <;> simp_all

theorem parallel_switches? (continues : Continues commented text text') :
    Parallel (Together commented text) beyond (switches? text) (switches? text') := by
  refine (parallel_flags? continues false false []).bind ?_ ?_
  · rintro _ _ ⟨further, left⟩
    exact (parallel_switched? further _).within left
  · rintro ⟨changes, _⟩ rfl two isSome
    cases changes with
    | nil => cases isSome
    | cons =>
        cases isSome
        exact List.suffix_refl ['$']

/-- The start of a group behind its question mark. -/
def signedStart? : List Char → Option (GroupStart × List Char)
  | 'P' :: '<' :: rest => (groupName? rest).map fun (name, rest) => (.named name, rest)
  | '<' :: rest => (groupName? rest).map fun (name, rest) => (.named name, rest)
  | rest => switches? rest

theorem groupStart?_eq (loose : Bool) (text : List Char) : groupStart? loose text =
    match skip loose text with
    | '?' :: rest => signedStart? rest
    | rest => some (.plain, rest) := by
  unfold groupStart?
  generalize skip loose text = text
  split
  · rfl
  · rfl
  · next rest notNamed notShort =>
      have isSigned : signedStart? rest = switches? rest := by
        unfold signedStart?
        split
        · next rest => exact absurd rfl (notNamed rest)
        · next rest => exact absurd rfl (notShort rest)
        · rfl
      exact (isSigned.trans (switches?_eq rest)).symm
  · next notSign =>
      split
      · next rest _ _ => exact absurd rfl (notSign rest)
      · rfl

theorem parallel_signedStart? (continues : Continues commented text text') :
    Parallel (Together commented text) beyond (signedStart? text) (signedStart? text') := by
  have named {rest rest' : List Char} (further : Continues commented rest rest')
      (left : rest <:+ text) : Parallel (Together commented text) beyond
        ((groupName? rest).map fun (name, rest) => (GroupStart.named name, rest))
        ((groupName? rest').map fun (name, rest) => (GroupStart.named name, rest)) := by
    refine (parallel_groupName? further).map ?_ fun _ isLost => isLost.elim
    rintro _ _ ⟨further, left'⟩
    exact ⟨further, left'.trans left⟩
  have switches := parallel_switches? continues
  cases text with
  | nil => obtain rfl | rfl := continues.of_nil <;> exact switches
  | cons c rest =>
      obtain ⟨rest', rfl, next⟩ := continues.of_cons
      by_cases isBracket : c = '<'
      · subst isBracket
        exact named next (List.suffix_cons '<' rest)
      by_cases isLetter : c = 'P'
      · subst isLetter
        cases rest with
        | nil => obtain rfl | rfl := next.of_nil <;> exact switches
        | cons d rest =>
            obtain ⟨rest', rfl, further⟩ := next.of_cons
            by_cases isBracket : d = '<'
            · subst isBracket
              exact named further ⟨['P', '<'], rfl⟩
            · have isSwitch (rest : List Char) :
                  signedStart? ('P' :: d :: rest) = switches? ('P' :: d :: rest) := by
                simp [signedStart?, isBracket]
              rw [isSwitch, isSwitch]
              exact switches
      · have isSwitch (rest : List Char) : signedStart? (c :: rest) = switches? (c :: rest) := by
          simp [signedStart?, isBracket, isLetter]
        rw [isSwitch, isSwitch]
        exact switches

theorem parallel_groupStart? (continues : Continues commented text text') :
    Parallel (Together commented text) beyond (groupStart? loose text)
      (groupStart? loose text') := by
  rw [groupStart?_eq, groupStart?_eq]
  have further := continues.skip loose
  refine Parallel.within ?_ (suffix_skip loose text)
  generalize skip loose text = rest at further
  generalize skip loose text' = rest' at further
  cases rest with
  | nil => obtain rfl | rfl := further.of_nil <;> exact .both ⟨further, List.suffix_refl _⟩
  | cons c rest =>
      obtain ⟨rest', rfl, next⟩ := further.of_cons
      by_cases isSign : c = '?'
      · subst isSign
        exact (parallel_signedStart? next).within (List.suffix_cons '?' rest)
      · simp only [List.cons.injEq, isSign, false_and, imp_self, implies_true]
        exact .both ⟨further, List.suffix_refl _⟩

/-! ## Sequences -/

/-- The second reading is past the parenthesis, or in front of a brace that opens no bounds. -/
inductive Stuck (loose : Bool) : List Char → Prop where
  | beyond {rest : List Char} (isBeyond : rest <:+ ['$']) : Stuck loose rest
  | brace {rest : List Char} (skipped : skip loose rest = closing) : Stuck loose ('\x7b' :: rest)

theorem parallel_primitive? {c : Char} {rest rest' : List Char}
    (continues : Continues commented (c :: rest) (c :: rest')) :
    Parallel (Together commented rest) (fun two => Stuck loose two.2)
      (primitive? loose (c :: rest)) (primitive? loose (c :: rest')) := by
  by_cases isBackslash : c = '\\'
  · subst isBackslash
    refine (parallel_escape? continues.tail).map ?_ ?_
    · rintro _ _ ⟨further, left⟩
      exact ⟨further, left⟩
    · rintro ⟨p, _⟩ (isBeyond | ⟨_, rest, rfl, skipped⟩)
      · exact .beyond isBeyond
      · exact .brace skipped
  · have plain : ∃ part, ∀ rest, primitive? loose (c :: rest) = some (part, rest) := by
      by_cases isDot : c = '.'
      · exact ⟨.dot, fun _ => by rw [isDot]; rfl⟩
      by_cases isCaret : c = '^'
      · exact ⟨.assertion .lineStart, fun _ => by rw [isCaret]; rfl⟩
      by_cases isDollar : c = '$'
      · exact ⟨.assertion .lineEnd, fun _ => by rw [isDollar]; rfl⟩
      · exact ⟨.literal ⟨c, false⟩, fun _ => by simp [primitive?]⟩
    obtain ⟨part, plain⟩ := plain
    rw [plain, plain]
    exact .both ⟨continues.tail, List.suffix_refl _⟩

/-- What stands at the head of a sequence. -/
inductive Item where
  /-- The end of the text or of the group. -/
  | stop
  | branch
  | part (part : Regex)
  | repetition (least : Nat) (most : Option Nat)
  | group (start : GroupStart)

/-- The item at the head of a sequence, and what is left behind it. -/
def item? (loose : Bool) (text : List Char) : Option (Item × List Char) :=
  match text with
  | [] => some (.stop, [])
  | ')' :: rest => some (.stop, ')' :: rest)
  | '|' :: rest => some (.branch, rest)
  | '[' :: rest => (charClass? loose rest).map fun (part, rest) => (.part part, rest)
  | '?' :: rest => some (.repetition 0 (some 1), skipLazy rest)
  | '*' :: rest => some (.repetition 0 none, skipLazy rest)
  | '+' :: rest => some (.repetition 1 none, skipLazy rest)
  | '\x7b' :: rest =>
      (bounds? loose rest).map fun (least, most, rest) => (.repetition least most, rest)
  | '(' :: rest => (groupStart? loose rest).map fun (start, rest) => (.group start, rest)
  | text => (primitive? loose text).map fun (part, rest) => (.part part, rest)

def group? (loose : Bool) (fuel : Nat) (p : Progress) (start : GroupStart) (text : List Char) :
    Option (Progress × List Char) := do
  let names ← addName? p.names start
  match readOn? (looseAfter loose start.changes) fuel (.start names) text with
  | some (inner, ')' :: rest) =>
      let group := Regex.group start.isNumbered start.changes inner.regex
      readOn? loose fuel { p.push group with names := inner.names } rest
  | _ => none

def afterItem? (loose : Bool) (fuel : Nat) (p : Progress) :
    Item × List Char → Option (Progress × List Char)
  | (.stop, rest) => some (p, rest)
  | (.branch, rest) => readOn? loose fuel p.endBranch rest
  | (.part part, rest) => readOn? loose fuel (p.push part) rest
  | (.repetition least most, rest) =>
      repeatFirst? least most p.parts >>= fun parts =>
        readOn? loose fuel { p with parts := parts } rest
  | (.group (.directive changes), rest) =>
      readOn? (looseAfter loose changes) fuel (p.push (.flags changes)) rest
  | (.group start, rest) => group? loose fuel p start rest

theorem readOn?_succ (loose : Bool) (fuel : Nat) (p : Progress) (text : List Char) :
    readOn? loose (fuel + 1) p text =
      item? loose (skip loose text) >>= afterItem? loose fuel p := by
  unfold readOn?
  generalize skip loose text = text
  dsimp only
  split
  · rfl
  · rfl
  · rfl
  · next rest =>
      change _ = (charClass? loose rest).map (fun (part, rest) => (Item.part part, rest)) >>= _
      cases charClass? loose rest <;> rfl
  · change _ = repeatFirst? 0 (some 1) p.parts >>= _
    cases repeatFirst? 0 (some 1) p.parts <;> rfl
  · change _ = repeatFirst? 0 none p.parts >>= _
    cases repeatFirst? 0 none p.parts <;> rfl
  · change _ = repeatFirst? 1 none p.parts >>= _
    cases repeatFirst? 1 none p.parts <;> rfl
  · next rest =>
      change _ = (bounds? loose rest).map (fun (least, most, rest) =>
        (Item.repetition least most, rest)) >>= _
      cases bounds? loose rest with
      | none => rfl
      | some three =>
          obtain ⟨least, most, rest⟩ := three
          change _ = repeatFirst? least most p.parts >>= _
          dsimp only
          cases repeatFirst? least most p.parts <;> rfl
  · next rest =>
      change _ = (groupStart? loose rest).map (fun (start, rest) => (Item.group start, rest)) >>= _
      cases groupStart? loose rest with
      | none => rfl
      | some two =>
          obtain ⟨start, rest⟩ := two
          cases start with
          | directive changes => rfl
          | plain => rfl
          | withFlags changes => rfl
          | named name =>
              change _ = addName? p.names (.named name) >>= _
              dsimp only
              cases addName? p.names (.named name) <;> rfl
  · have isPart : item? loose text =
        (primitive? loose text).map fun (part, rest) => (Item.part part, rest) := by
      unfold item?
      split <;> first | rfl | grind
    rw [isPart]
    cases primitive? loose text <;> rfl

/-- What the second reading may have got where the first has no item left. -/
inductive ItemLost (loose : Bool) : Item × List Char → Prop where
  | part {part : Regex} {rest : List Char} (isStuck : Stuck loose rest) :
      ItemLost loose (.part part, rest)
  | group {start : GroupStart} {rest : List Char} (isBeyond : rest <:+ ['$']) :
      ItemLost loose (.group start, rest)

/-- Both readings have got the same item, which takes some of the text unless it is the end. -/
inductive ItemTogether (commented : Prop) (text : List Char) :
    Item × List Char → Item × List Char → Prop where
  | stop {rest' : List Char} (continues : Continues commented text rest') :
      ItemTogether commented text (.stop, text) (.stop, rest')
  | more {one two : Item × List Char} (behind : Behind commented text one two) :
      ItemTogether commented text one two

theorem parallel_item? (continues : Continues commented text text') :
    Parallel (ItemTogether commented text) (ItemLost loose) (item? loose text)
      (item? loose text') := by
  cases text with
  | nil => obtain rfl | rfl := continues.of_nil <;> exact .both (.stop continues)
  | cons c rest =>
      obtain ⟨rest', rfl, next⟩ := continues.of_cons
      have repetition (least : Nat) (most : Option Nat) :
          Parallel (ItemTogether commented (c :: rest)) (ItemLost loose)
            (some (.repetition least most, skipLazy rest))
            (some (.repetition least most, skipLazy rest')) :=
        .both (.more ⟨⟨next.skipLazy, suffix_skipLazy rest⟩⟩)
      by_cases isClosing : c = ')'
      · subst isClosing
        exact .both (.stop continues)
      by_cases isBar : c = '|'
      · subst isBar
        exact .both (.more ⟨⟨next, List.suffix_refl _⟩⟩)
      by_cases isBracket : c = '['
      · subst isBracket
        refine (parallel_charClass? next).map ?_ fun _ isLost => isLost.elim
        rintro _ _ ⟨further, left⟩
        exact .more ⟨⟨further, left⟩⟩
      by_cases isSign : c = '?'
      · subst isSign
        exact repetition 0 (some 1)
      by_cases isStar : c = '*'
      · subst isStar
        exact repetition 0 none
      by_cases isPlus : c = '+'
      · subst isPlus
        exact repetition 1 none
      by_cases isBrace : c = '\x7b'
      · subst isBrace
        refine (parallel_bounds? next).map ?_ fun _ isLost => isLost.elim
        rintro ⟨least, one⟩ ⟨_, two⟩ ⟨rfl, further, left⟩
        exact .more ⟨⟨further, left⟩⟩
      by_cases isParenthesis : c = '('
      · subst isParenthesis
        refine (parallel_groupStart? next).map ?_ fun _ isBeyond => .group isBeyond
        rintro _ _ ⟨further, left⟩
        exact .more ⟨⟨further, left⟩⟩
      · have isPart (rest : List Char) : item? loose (c :: rest) =
            (primitive? loose (c :: rest)).map fun (part, rest) => (Item.part part, rest) := by
          unfold item?
          split <;> first | rfl | grind
        rw [isPart, isPart]
        refine (parallel_primitive? continues).map ?_ fun _ isStuck => .part isStuck
        rintro _ _ ⟨further, left⟩
        exact .more ⟨⟨further, left⟩⟩

theorem bounds?_closing (skipped : skip loose text = closing) : bounds? loose text = none := by
  have shown : skipTo? loose text = some closing := by
    rw [skipTo?, skipped]
    rfl
  simp only [bounds?, shown, Option.bind_eq_bind, Option.bind_some, count?_closing,
    Option.bind_none]

/-- Where the second reading is stuck it fails, or it goes on to the end of the text. -/
theorem readOn?_stuck (isStuck : Stuck loose text) {fuel : Nat} {p : Progress}
    {result : Progress × List Char} (isSome : readOn? loose fuel p text = some result) :
    result.2 = [] := by
  have ending {fuel : Nat} {p : Progress} (isSome : readOn? loose fuel p [] = some result) :
      result.2 = [] := by
    cases fuel with
    | zero => cases isSome
    | succ fuel => cases loose <;> cases isSome <;> rfl
  cases fuel with
  | zero => cases isSome
  | succ fuel =>
      cases isStuck with
      | beyond isBeyond =>
          obtain rfl | isEmpty := List.suffix_cons_iff.mp isBeyond
          · have isSome : readOn? loose fuel (p.push (.assertion .lineEnd)) [] = some result := by
              cases loose <;> exact isSome
            exact ending isSome
          · obtain rfl := List.suffix_nil.mp isEmpty
            exact ending isSome
      | @brace rest skipped =>
          have atBrace : skip loose ('\x7b' :: rest) = '\x7b' :: rest := by cases loose <;> rfl
          rw [readOn?_succ, atBrace, item?, bounds?_closing skipped] at isSome
          cases isSome

theorem group?_beyond (isBeyond : text <:+ ['$']) {fuel : Nat} {p : Progress} {start : GroupStart} :
    group? loose fuel p start text = none := by
  unfold group?
  cases addName? p.names start with
  | none => rfl
  | some names =>
      rw [Option.bind_eq_bind, Option.bind_some]
      cases isInner : readOn? (looseAfter loose start.changes) fuel (.start names) text with
      | none => rfl
      | some two =>
          obtain ⟨inner, rest⟩ := two
          obtain rfl : rest = [] := readOn?_stuck (.beyond isBeyond) isInner
          rfl

def atEnd {α : Type} : α × List Char → Prop := fun two => two.2 = []

theorem parallel_group? {fuel fuel' : Nat}
    (deeper : ∀ {loose : Bool} {later later' : List Char}, Continues commented later later' →
      later.length < fuel → later.length < fuel' → ∀ p : Progress,
      Parallel (Together commented later) atEnd (readOn? loose fuel p later)
        (readOn? loose fuel' p later'))
    (continues : Continues commented text text') (enough : text.length < fuel)
    (enough' : text.length < fuel') (p : Progress) (start : GroupStart) :
    Parallel (Together commented text) atEnd (group? loose fuel p start text)
      (group? loose fuel' p start text') := by
  unfold group?
  cases addName? p.names start with
  | none => exact .neither
  | some names =>
      rw [Option.bind_eq_bind, Option.bind_some, Option.bind_some]
      match readOn? (looseAfter loose start.changes) fuel (.start names) text,
        readOn? (looseAfter loose start.changes) fuel' (.start names) text',
        deeper continues enough enough' (.start names) with
      | _, _, .neither => exact .neither
      | _, _, @Parallel.second _ _ _ (inner, _) isEmpty =>
          obtain rfl := isEmpty
          exact .neither
      | _, _, .both (@Together.intro _ _ _ inner rest rest' further left) =>
          cases rest with
          | nil =>
              -- the parenthesis of the anchor closes a group of the pattern
              refine .of_none fun two isSome => ?_
              obtain rfl | rfl := further.of_nil
              · exact readOn?_stuck (.beyond (List.suffix_refl ['$'])) isSome
              · cases isSome
          | cons c rest =>
              obtain ⟨rest', rfl, next⟩ := further.of_cons
              by_cases isClosing : c = ')'
              · subst isClosing
                replace left := (List.suffix_cons ')' rest).trans left
                have shorter := left.length_le
                exact (deeper next (by omega) (by omega) _).within left
              · simp only [Option.some.injEq, Prod.mk.injEq, List.cons.injEq, isClosing,
                  false_and, and_false, imp_self, implies_true]
                exact .neither

/-- A pattern is read alone as it is in front of the anchor, up to the end of the pattern or the
    first parenthesis that closes none of its groups. Where only the reading in front of the anchor
    goes on, the anchor has become a part of what the pattern left open. -/
theorem parallel_readOn? (continues : Continues commented text text') {fuel fuel' : Nat}
    (enough : text.length < fuel) (enough' : text.length < fuel') (p : Progress) :
    Parallel (Together commented text) atEnd (readOn? loose fuel p text)
      (readOn? loose fuel' p text') := by
  induction fuel generalizing fuel' loose text text' p with
  | zero => exact absurd enough (Nat.not_lt_zero _)
  | succ fuel ih =>
      obtain ⟨fuel', rfl⟩ := Nat.exists_eq_add_one_of_ne_zero (show fuel' ≠ 0 by grind)
      have left := suffix_skip loose text
      have shorter := left.length_le
      rw [readOn?_succ, readOn?_succ]
      refine Parallel.within ?_ left
      refine (parallel_item? (continues.skip loose)).bind ?_ ?_
      · intro one two isTogether
        generalize skip loose text = text at shorter isTogether
        obtain ⟨further⟩ | ⟨behind⟩ := isTogether
        · exact .both ⟨further, List.suffix_refl _⟩
        obtain @⟨c, rest, _, _, @⟨item, later, later', further, left⟩⟩ := behind
        have shorter' := left.length_le
        rw [List.length_cons] at shorter
        refine Parallel.within ?_ (left.trans (List.suffix_cons c rest))
        have go (loose : Bool) (p : Progress) :
            Parallel (Together commented later) atEnd (readOn? loose fuel p later)
              (readOn? loose fuel' p later') :=
          ih further (by omega) (by omega) p
        have onGroup (start : GroupStart) :
            Parallel (Together commented later) atEnd (group? loose fuel p start later)
              (group? loose fuel' p start later') :=
          parallel_group? (fun further enough enough' p => ih further enough enough' p) further
            (by omega) (by omega) p start
        cases item with
        | stop => exact .both ⟨further, List.suffix_refl _⟩
        | branch => exact go _ _
        | part part => exact go _ _
        | repetition least most =>
            change Parallel _ _ (repeatFirst? least most p.parts >>= _)
              (repeatFirst? least most p.parts >>= _)
            cases repeatFirst? least most p.parts with
            | none => exact .neither
            | some parts => exact go _ _
        | group start =>
            cases start with
            | directive changes => exact go _ _
            | plain => exact onGroup _
            | named name => exact onGroup _
            | withFlags changes => exact onGroup _
      · rintro _ (isStuck | @⟨start, rest, isBeyond⟩) result isSome
        · exact readOn?_stuck isStuck isSome
        · cases start with
          | directive changes => exact readOn?_stuck (.beyond isBeyond) isSome
          | plain => cases (group?_beyond isBeyond).symm.trans isSome
          | named name => cases (group?_beyond isBeyond).symm.trans isSome
          | withFlags changes => cases (group?_beyond isBeyond).symm.trans isSome

/-! ## Ends of readings -/

theorem item?_stop {rest : List Char}
    (isStop : item? loose text = some (.stop, rest)) : rest = [] ∨ ∃ more, rest = ')' :: more := by
  unfold item? at isStop
  split at isStop
  · exact .inl (Prod.mk.inj (Option.some.inj isStop)).2.symm
  · next more => exact .inr ⟨more, (Prod.mk.inj (Option.some.inj isStop)).2.symm⟩
  all_goals simp at isStop

theorem readOn?_rest {fuel : Nat} {p progress : Progress} {rest : List Char}
    (isSome : readOn? loose fuel p text = some (progress, rest)) :
    rest = [] ∨ ∃ more, rest = ')' :: more := by
  induction fuel generalizing loose p text with
  | zero => cases isSome
  | succ fuel ih =>
      rw [readOn?_succ] at isSome
      cases isItem : item? loose (skip loose text) with
      | none =>
          rw [isItem] at isSome
          cases isSome
      | some two =>
          obtain ⟨item, later⟩ := two
          rw [isItem, Option.bind_eq_bind, Option.bind_some] at isSome
          have onGroup {start : GroupStart}
              (isSome : group? loose fuel p start later = some (progress, rest)) :
              rest = [] ∨ ∃ more, rest = ')' :: more := by
            obtain ⟨names, _, isSome⟩ := Option.bind_eq_some_iff.mp isSome
            split at isSome
            · exact ih isSome
            · cases isSome
          cases item with
          | stop =>
              cases isSome
              exact item?_stop isItem
          | branch => exact ih isSome
          | part part => exact ih isSome
          | repetition least most =>
              obtain ⟨parts, _, isSome⟩ := Option.bind_eq_some_iff.mp isSome
              exact ih isSome
          | group start =>
              cases start with
              | directive changes => exact ih isSome
              | plain => exact onGroup isSome
              | named name => exact onGroup isSome
              | withFlags changes => exact onGroup isSome

end Readers

end JsonQuery.Pattern

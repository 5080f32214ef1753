import JsonQuery.Pattern.Query
import JsonQuery.Proofs.PatternMatching
import JsonQuery.Proofs.PatternReading

/-! # Patterns between anchors

A pattern is tied to a whole text by putting its text between anchors. The anchors and the pattern
are then read as one expression, so the group between the anchors is not always the pattern: a
closing parenthesis that closes none of the pattern's groups closes the group, and a comment at the
end of the pattern hides the closing anchor. Apart from these, a pattern is valid between anchors if
it is valid and leaves room for them, and then it matches the texts that it matches as a whole.
-/

namespace JsonQuery.Pattern

/-- The reading of a pattern by itself, up to the end or to a closing parenthesis. -/
def readAlone? (pattern : String) : Option (Progress × List Char) :=
  let text := expandDots false pattern.toList
  readOn? false (text.length + 1) (.start []) text

/-- The reading of a pattern in the group between the anchors, up to the parenthesis that closes the
    group. The fuel is what the opening anchor leaves of that for the whole text. -/
def readInside? (pattern : String) : Option (Progress × List Char) :=
  let text := expandDots false pattern.toList
  readOn? false (text.length + 5) (.start []) (text ++ closing)

/-- The pattern has a closing parenthesis that closes none of its groups. -/
def HasStrayParenthesis (pattern : String) : Prop :=
  ∃ progress rest, readAlone? pattern = some (progress, ')' :: rest)

/-- The closing anchor belongs to what the pattern has left open at its end. -/
def HidesAnchor (pattern : String) : Prop :=
  ∃ progress, readInside? pattern = some (progress, [])

def enclosed (pattern : Pattern) : Pattern :=
  .sequence [.look .textStart, pattern, .look .textEnd]

/-- A pattern is neither too deep nor too large to be put between anchors. -/
def AnchorsFit (pattern : String) : Prop :=
  ∀ regex ∈ Regex.ofChars? (expand false pattern.toList), regex.depth + 2 ≤ depthLimit ∧
    ∀ alone ∈ ofText? false pattern, isSmall (enclosed alone) = true

/-! ## The two readings -/

variable {pattern : String}

/-- How the reading of a pattern by itself and the reading between anchors may end, if no
    parenthesis closes the group early. -/
inductive Readings (pattern : String) : Prop where
  | enclosed {inner : Progress} (alone : readAlone? pattern = some (inner, []))
      (inside : readInside? pattern = some (inner, closing))
  | hidden {inner : Progress} (alone : readAlone? pattern = some (inner, []))
      (inside : readInside? pattern = some (inner, [])) (comment : '#' ∈ pattern.toList)
  | malformed (alone : readAlone? pattern = none)
      (inside : ∀ inner rest, readInside? pattern = some (inner, rest) → rest = [])

theorem mem_of_mem_expandDots {inClass : Bool} {text : List Char}
    (member : '#' ∈ expandDots inClass text) : '#' ∈ text := by
  have notInClass : '#' ∉ dotClass := by decide
  fun_induction expandDots inClass text <;> grind

theorem readings (noStray : ¬HasStrayParenthesis pattern) : Readings pattern := by
  have continues : Continues ('#' ∈ expandDots false pattern.toList)
      (expandDots false pattern.toList) (expandDots false pattern.toList ++ closing) := .behind id
  have parallel : Parallel _ _ (readAlone? pattern) (readInside? pattern) :=
    parallel_readOn? continues (Nat.lt_succ_self _) (Nat.lt_add_of_pos_right (by decide)) _
  cases isAlone : readAlone? pattern with
  | none =>
      rw [isAlone] at parallel
      refine .malformed isAlone fun inner rest isInside => ?_
      rw [isInside] at parallel
      cases parallel with
      | second isEmpty => exact isEmpty
  | some two =>
      obtain ⟨inner, rest⟩ := two
      have isEmpty : rest = [] := by
        obtain isEmpty | ⟨more, rfl⟩ := readOn?_rest isAlone
        · exact isEmpty
        · exact absurd ⟨inner, more, isAlone⟩ noStray
      subst isEmpty
      rw [isAlone] at parallel
      cases isInside : readInside? pattern with
      | none =>
          rw [isInside] at parallel
          cases parallel
      | some two =>
          rw [isInside] at parallel
          cases parallel with
          | both together =>
              obtain ⟨continues, _⟩ := together
              cases continues with
              | behind => exact .enclosed isAlone isInside
              | swallowed comment => exact .hidden isAlone isInside (mem_of_mem_expandDots comment)

/-! ## Valid patterns -/

def Regex.enclosed (regex : Regex) : Regex :=
  .concatenation [.assertion .lineStart, .group false [] regex, .assertion .lineEnd]

theorem ofChars?_alone {inner : Progress} (alone : readAlone? pattern = some (inner, [])) :
    Regex.ofChars? (expand false pattern.toList) =
      if inner.regex.depth ≤ depthLimit then some inner.regex else none := by
  have read : readOn? false ((expandDots false pattern.toList).length + 1) (.start [])
      (expandDots false pattern.toList) = some (inner, []) := alone
  rw [expand, if_neg Bool.false_ne_true, Regex.ofChars?, read]

theorem ofChars?_malformed (alone : readAlone? pattern = none) :
    Regex.ofChars? (expand false pattern.toList) = none := by
  have read : readOn? false ((expandDots false pattern.toList).length + 1) (.start [])
      (expandDots false pattern.toList) = none := alone
  rw [expand, if_neg Bool.false_ne_true, Regex.ofChars?, read]

theorem readOn?_anchor (text : List Char) :
    readOn? false ((anchor text).length + 1) (.start []) (anchor text) =
      group? false (text.length + 5) ((Progress.start []).push (.assertion .lineStart))
        (.withFlags []) (text ++ closing) := by
  have length : (anchor text).length = text.length + 6 := by simp [anchor]
  rw [length]
  change readOn? false (text.length + 7) _ ('^' :: '(' :: '?' :: ':' :: (text ++ closing)) = _
  rw [readOn?_succ]
  change readOn? false (text.length + 6) _ ('(' :: '?' :: ':' :: (text ++ closing)) = _
  rw [readOn?_succ]
  rfl

theorem group?_anchor (text : List Char) (fuel : Nat) (p : Progress) (names : p.names = []) :
    group? false fuel p (.withFlags []) text =
      match readOn? false fuel (.start []) text with
      | some (inner, ')' :: rest) =>
          readOn? false fuel { p.push (.group false [] inner.regex) with names := inner.names } rest
      | _ => none := by
  have added : addName? p.names (.withFlags []) = some [] := by
    rw [names]
    rfl
  rw [group?, added]
  rfl

theorem ofChars?_enclosed {inner : Progress}
    (inside : readInside? pattern = some (inner, closing)) :
    Regex.ofChars? (expand true pattern.toList) =
      if inner.regex.depth + 2 ≤ depthLimit then some inner.regex.enclosed else none := by
  have read : readOn? false ((expandDots false pattern.toList).length + 5) (.start [])
      (expandDots false pattern.toList ++ closing) = some (inner, closing) := inside
  have depth : inner.regex.enclosed.depth = inner.regex.depth + 2 := by
    simp [Regex.enclosed, Regex.depth, Regex.depthAll]
  rw [← depth, expand, if_pos rfl, Regex.ofChars?, readOn?_anchor, group?_anchor _ _ _ rfl, read]
  rfl

theorem ofChars?_open
    (inside : ∀ inner rest, readInside? pattern = some (inner, rest) → rest = []) :
    Regex.ofChars? (expand true pattern.toList) = none := by
  rw [expand, if_pos rfl, Regex.ofChars?, readOn?_anchor, group?_anchor _ _ _ rfl]
  match isInside : readInside? pattern with
  | none =>
      have read : readOn? false ((expandDots false pattern.toList).length + 5) (.start [])
        (expandDots false pattern.toList ++ closing) = none := isInside
      rw [read]
  | some (inner, rest) =>
      obtain rfl := inside inner rest isInside
      have read : readOn? false ((expandDots false pattern.toList).length + 5) (.start [])
        (expandDots false pattern.toList ++ closing) = some (inner, []) := isInside
      rw [read]

/-! ## Enclosed patterns -/

theorem pattern?_enclosed (regex : Regex) : regex.enclosed.pattern? .initial =
    (regex.pattern? .initial).map fun (alone, _) => (enclosed alone, .initial) := by
  have opening : Assertion.lineStart.look .initial = .textStart := rfl
  have kept : Switches.initial.apply [] = .initial := rfl
  simp only [Regex.enclosed, Regex.pattern?, Regex.patterns?, kept, opening]
  cases regex.pattern? .initial <;> rfl

theorem isSmall_of_enclosed {alone : Pattern} (small : isSmall (enclosed alone) = true) :
    isSmall alone = true := by
  have size (setSize : Unicode.PointSet → Nat) :
      alone.sizeWith setSize ≤ (enclosed alone).sizeWith setSize := by
    simp only [enclosed, sequence, List.foldr, sizeWith]
    omega
  simp only [isSmall, Bool.or_eq_true, decide_eq_true_eq] at small ⊢
  exact small.imp (size _).trans (size _).trans

theorem spans_enclosed {text : List Char} {alone : Pattern} {first last : Nat} :
    (enclosed alone).Spans text first last ↔
      first = 0 ∧ alone.Spans text 0 text.length ∧ last = text.length := by
  have atStart {position : Nat} (inside : position ≤ text.length) :
      Look.textStart.holds (charBefore text position) text[position]? = true ↔ position = 0 := by
    cases position with
    | zero => simp [Look.holds, charBefore]
    | succ position =>
        have there : position < text.length := inside
        simp [Look.holds, charBefore, there]
  have atEnd {position : Nat} (inside : position ≤ text.length) :
      Look.textEnd.holds (charBefore text position) text[position]? = true ↔
        position = text.length := by
    simp only [Look.holds, Option.isNone_iff_eq_none, List.getElem?_eq_none_iff]
    omega
  simp only [enclosed, sequence, List.foldr, Spans]
  constructor
  · rintro ⟨start, ⟨inside, isStart, rfl⟩, stop, spans, _, ⟨inside', isEnd, rfl⟩, rfl⟩
    obtain rfl := (atStart inside).mp isStart
    obtain rfl := (atEnd inside').mp isEnd
    exact ⟨rfl, spans, rfl⟩
  · rintro ⟨rfl, spans, rfl⟩
    exact ⟨0, ⟨Nat.zero_le _, (atStart (Nat.zero_le _)).mpr rfl, rfl⟩, text.length, spans,
      text.length, ⟨le_rfl, (atEnd le_rfl).mpr rfl, rfl⟩, rfl⟩

theorem enclosed_matchesWithin_iff {text : List Char} {alone : Pattern} :
    (enclosed alone).matchesWithin text = true ↔ alone.Spans text 0 text.length := by
  rw [matchesWithin_iff]
  constructor
  · rintro ⟨first, last, _, spans⟩
    exact (spans_enclosed.mp spans).2.1
  · intro spans
    exact ⟨0, text.length, Nat.zero_le _, spans_enclosed.mpr ⟨rfl, spans, rfl⟩⟩

theorem ofRegex?_eq_some_iff {expression : List Char} {found : Pattern} :
    ofRegex? expression = some found ↔ ∃ regex after, Regex.ofChars? expression = some regex ∧
      regex.pattern? .initial = some (found, after) ∧ isSmall found = true := by
  unfold ofRegex?
  cases Regex.ofChars? expression with
  | none => simp
  | some regex => simp [Option.filter_eq_some_iff]

/-- A pattern without a stray parenthesis stands between anchors for what it stands for by itself,
    put between anchors, if it does not hide the closing anchor and leaves room for both. -/
theorem ofText?_anchored_iff (noStray : ¬HasStrayParenthesis pattern) (anchored : Pattern) :
    ofText? true pattern = some anchored ↔
      ¬HidesAnchor pattern ∧ AnchorsFit pattern ∧
        ∃ alone, ofText? false pattern = some alone ∧ anchored = enclosed alone := by
  cases readings noStray with
  | @enclosed inner alone inside =>
      have shown : ¬HidesAnchor pattern := by
        rintro ⟨progress, isHidden⟩
        cases inside.symm.trans isHidden
      have isAlone := ofChars?_alone alone
      have isEnclosed := ofChars?_enclosed inside
      constructor
      · intro isSome
        obtain ⟨regex, after, isRegex, isPattern, small⟩ := ofRegex?_eq_some_iff.mp isSome
        rw [isEnclosed, Option.ite_none_right_eq_some] at isRegex
        obtain ⟨room, isRegex⟩ := isRegex
        obtain rfl := Option.some.inj isRegex
        rw [pattern?_enclosed, Option.map_eq_some_iff] at isPattern
        obtain ⟨⟨found, after'⟩, isPattern, same⟩ := isPattern
        obtain ⟨rfl, rfl⟩ := Prod.mk.inj same
        rw [if_pos (by omega)] at isAlone
        have isFound : ofText? false pattern = some found :=
          ofRegex?_eq_some_iff.mpr ⟨_, _, isAlone, isPattern, isSmall_of_enclosed small⟩
        refine ⟨shown, ?_, found, isFound, rfl⟩
        intro regex isRegex
        obtain rfl := Option.some.inj (isAlone.symm.trans isRegex)
        refine ⟨room, fun alone isSome => ?_⟩
        obtain rfl := Option.some.inj (isFound.symm.trans isSome)
        exact small
      · rintro ⟨_, fit, found, isFound, rfl⟩
        obtain ⟨regex, after, isRegex, isPattern, _⟩ := ofRegex?_eq_some_iff.mp isFound
        obtain ⟨room, small⟩ := fit regex isRegex
        rw [isAlone, Option.ite_none_right_eq_some] at isRegex
        obtain rfl := Option.some.inj isRegex.2
        rw [if_pos room] at isEnclosed
        refine ofRegex?_eq_some_iff.mpr ⟨_, .initial, isEnclosed, ?_, small found isFound⟩
        rw [pattern?_enclosed, isPattern]
        rfl
  | hidden alone inside =>
      have isOpen := ofChars?_open fun inner rest isInside => by
        cases inside.symm.trans isInside
        rfl
      constructor
      · intro isSome
        obtain ⟨regex, _, isRegex, _⟩ := ofRegex?_eq_some_iff.mp isSome
        cases isOpen.symm.trans isRegex
      · rintro ⟨shown, _⟩
        exact absurd ⟨_, inside⟩ shown
  | malformed alone inside =>
      constructor
      · intro isSome
        obtain ⟨regex, _, isRegex, _⟩ := ofRegex?_eq_some_iff.mp isSome
        cases (ofChars?_open inside).symm.trans isRegex
      · rintro ⟨_, _, found, isFound, _⟩
        obtain ⟨regex, _, isRegex, _⟩ := ofRegex?_eq_some_iff.mp isFound
        cases (ofChars?_malformed alone).symm.trans isRegex

theorem isValid_iff {anchored : Bool} :
    isValid anchored pattern = true ↔ ∃ found, ofText? anchored pattern = some found :=
  Option.isSome_iff_exists

theorem test_iff {anchored : Bool} {text : String} : test anchored pattern text = true ↔
    ∃ found, ofText? anchored pattern = some found ∧ found.matchesWithin text.toList = true := by
  unfold test
  cases ofText? anchored pattern <;> simp

theorem readAlone?_of_isValid (isAlone : isValid false pattern = true) :
    ∃ inner, readAlone? pattern = some (inner, []) := by
  obtain ⟨found, isFound⟩ := isValid_iff.mp isAlone
  obtain ⟨regex, _, isRegex, _⟩ := ofRegex?_eq_some_iff.mp isFound
  unfold Regex.ofChars? at isRegex
  split at isRegex
  · next inner read => exact ⟨inner, read⟩
  · cases isRegex

theorem not_isValid_of_hasStrayParenthesis (isStray : HasStrayParenthesis pattern) :
    isValid false pattern = false := by
  refine Bool.eq_false_iff.mpr fun isAlone => ?_
  obtain ⟨inner, read⟩ := readAlone?_of_isValid isAlone
  obtain ⟨progress, rest, isStray⟩ := isStray
  cases read.symm.trans isStray

/-- Only a comment takes in the anchor behind a valid pattern. -/
theorem sign_of_hidesAnchor (isAlone : isValid false pattern = true)
    (isHidden : HidesAnchor pattern) : '#' ∈ pattern.toList := by
  have noStray : ¬HasStrayParenthesis pattern := fun isStray => by
    rw [not_isValid_of_hasStrayParenthesis isStray] at isAlone
    cases isAlone
  obtain ⟨progress, isHidden⟩ := isHidden
  obtain ⟨inner, read⟩ := readAlone?_of_isValid isAlone
  cases readings noStray with
  | enclosed alone inside => cases inside.symm.trans isHidden
  | hidden alone inside comment => exact comment
  | malformed alone inside => cases alone.symm.trans read

/-- The comment takes in the parenthesis that is to close the group. -/
example : isValid false "(?x)a#" = true ∧ isValid true "(?x)a#" = false := by decide +kernel

/-- For a pattern without a stray closing parenthesis, to match a whole text is to match it. It is
    valid between anchors exactly if it is valid, unless a comment hides the closing anchor or the
    anchors do not fit; then it matches what it matches from the first character to the last. An
    invalid one matches nothing, with anchors or without. -/
theorem whole_match_is_match (noStray : ¬HasStrayParenthesis pattern) :
    (∀ text, test true pattern text = true → test false pattern text = true) ∧
    (isValid true pattern = true ↔
      isValid false pattern = true ∧ ¬HidesAnchor pattern ∧ AnchorsFit pattern) ∧
    (isValid false pattern = true → HidesAnchor pattern → '#' ∈ pattern.toList) ∧
    (∀ alone, ofText? false pattern = some alone → isValid true pattern = true → ∀ text,
      (test true pattern text = true ↔ alone.Spans text.toList 0 text.toList.length)) ∧
    (isValid false pattern = false → ∀ anchored text, test anchored pattern text = false) := by
  have anchored_iff := ofText?_anchored_iff noStray
  have valid_iff : isValid true pattern = true ↔
      isValid false pattern = true ∧ ¬HidesAnchor pattern ∧ AnchorsFit pattern := by
    constructor
    · intro isAnchored
      obtain ⟨_, isSome⟩ := isValid_iff.mp isAnchored
      obtain ⟨shown, fit, alone, isAlone, _⟩ := (anchored_iff _).mp isSome
      exact ⟨isValid_iff.mpr ⟨alone, isAlone⟩, shown, fit⟩
    · rintro ⟨isAlone, shown, fit⟩
      obtain ⟨alone, isAlone⟩ := isValid_iff.mp isAlone
      exact isValid_iff.mpr ⟨_, (anchored_iff _).mpr ⟨shown, fit, alone, isAlone, rfl⟩⟩
  refine ⟨?_, valid_iff, sign_of_hidesAnchor, ?_, ?_⟩
  · intro text isMatch
    obtain ⟨_, isSome, isMatch⟩ := test_iff.mp isMatch
    obtain ⟨_, _, alone, isAlone, rfl⟩ := (anchored_iff _).mp isSome
    refine test_iff.mpr ⟨alone, isAlone, matchesWithin_iff.mpr ?_⟩
    exact ⟨0, _, Nat.zero_le _, enclosed_matchesWithin_iff.mp isMatch⟩
  · intro alone isAlone isValid text
    obtain ⟨_, shown, fit⟩ := valid_iff.mp isValid
    have isSome := (anchored_iff _).mpr ⟨shown, fit, alone, isAlone, rfl⟩
    rw [test, isSome]
    exact enclosed_matchesWithin_iff
  · intro invalid anchored text
    refine Bool.eq_false_iff.mpr fun isMatch => ?_
    obtain ⟨found, isSome, _⟩ := test_iff.mp isMatch
    have isValid : isValid false pattern = true := by
      cases anchored with
      | false => exact isValid_iff.mpr ⟨found, isSome⟩
      | true => exact (valid_iff.mp (isValid_iff.mpr ⟨found, isSome⟩)).1
    rw [invalid] at isValid
    cases isValid

theorem whole_match_is_match_dot : ¬HasStrayParenthesis "a.b" ∧
    isValid false "a.b" = true ∧ ¬HidesAnchor "a.b" ∧ AnchorsFit "a.b" ∧
    test true "a.b" "axb" = true ∧ test false "a.b" "axb" = true := by
  have noStray : ¬HasStrayParenthesis "a.b" := by
    rintro ⟨progress, rest, isStray⟩
    have read : (readAlone? "a.b").map Prod.snd = some [] := by decide +kernel
    rw [isStray] at read
    cases read
  have isValid : isValid true "a.b" = true := by decide +kernel
  have isMatch : test true "a.b" "axb" = true := by decide +kernel
  obtain ⟨match_of_whole, valid_iff, _⟩ := whole_match_is_match noStray
  obtain ⟨isAlone, shown, fit⟩ := valid_iff.mp isValid
  exact ⟨noStray, isAlone, shown, fit, isMatch, match_of_whole _ isMatch⟩

/-- A stray parenthesis leaves one anchor for each half of a pattern, which is invalid by itself but
    matches a text that starts with the first half. -/
theorem whole_match_without_match :
    isValid true "a)|(b" = true ∧ isValid false "a)|(b" = false ∧
      test true "a)|(b" "ax" = true ∧ test false "a)|(b" "ax" = false := by
  decide +kernel

end JsonQuery.Pattern

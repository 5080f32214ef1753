import JsonQuery.Proofs.Respacing

/-! # Tokens cover their text

The spans of the tokens lie side by side in the text, in the order of the tokens. Each lexeme is the
text of its span, and what no span covers is a blank between two tokens.
-/

namespace JsonQuery

namespace Span

def stop (s : Span) : Nat := s.offset + s.length

def covers (s : Span) (place : Nat) : Bool := s.offset ≤ place && place < s.stop

theorem covers_iff {s : Span} {place : Nat} :
    s.covers place = true ↔ s.offset ≤ place ∧ place < s.stop := by
  simp only [covers, Bool.and_eq_true, decide_eq_true_eq]

end Span

namespace Token

def isCovered (ts : List Token) (place : Nat) : Bool := ts.any (·.span.covers place)

/-- The characters of a text that belong to a token, `offset` being the place of the first. -/
def coveredChars (ts : List Token) (offset : Nat) (text : List Char) : List Char :=
  ((text.zipIdx offset).filter fun (_, place) => isCovered ts place).map Prod.fst

/-- The tokens cover the text, but for blanks between them. -/
structure Covers (text : List Char) (ts : List Token) : Prop where
  /-- The spans are in the order of the tokens and do not overlap. -/
  ordered : ts.Pairwise fun t u => t.span.stop ≤ u.span.offset
  /-- Every span lies in the text, and the lexeme is what stands there. -/
  placed : ∀ t ∈ ts, t.span.stop ≤ text.length ∧
    t.lexeme.toList = (text.drop t.span.offset).take t.span.length
  /-- Only the last span is empty. -/
  nonempty : ∀ t ∈ ts.dropLast, 1 ≤ t.span.length
  /-- What no span covers is a blank, with tokens on either side. -/
  blank : ∀ place c, text[place]? = some c → isCovered ts place = false → isBlank c = true ∧
    (∃ t ∈ ts.dropLast, t.span.stop ≤ place) ∧ ∃ t ∈ ts.dropLast, place < t.span.offset
  /-- The last token marks the end. -/
  ended : ts.getLast? = some (endAt text.length)
  /-- The lexemes one after the other are the text without what no span covers. -/
  joined : ts.flatMap (·.lexeme.toList) = coveredChars ts 0 text

/-! ## Places and spans -/

theorem isCovered_cons (t : Token) (ts : List Token) (place : Nat) :
    isCovered (t :: ts) place = (t.span.covers place || isCovered ts place) := by
  simp [isCovered]

theorem isCovered_eq_true_iff {ts : List Token} {place : Nat} :
    isCovered ts place = true ↔ ∃ t ∈ ts, t.span.offset ≤ place ∧ place < t.span.stop := by
  simp only [isCovered, List.any_eq_true, Span.covers_iff]

theorem coveredChars_append (ts : List Token) (offset : Nat) (front rest : List Char) :
    coveredChars ts offset (front ++ rest) =
      coveredChars ts offset front ++ coveredChars ts (offset + front.length) rest := by
  simp [coveredChars, List.zipIdx_append]

/-- Nothing is left out where every place is covered. -/
theorem coveredChars_eq_self {ts : List Token} {offset : Nat} {text : List Char}
    (covered : ∀ place, offset ≤ place → place < offset + text.length →
      isCovered ts place = true) : coveredChars ts offset text = text := by
  have all : (text.zipIdx offset).filter (fun (_, place) => isCovered ts place) =
      text.zipIdx offset := by
    refine List.filter_eq_self.mpr ?_
    rintro ⟨c, place⟩ member
    obtain ⟨from', upTo, _⟩ := List.mem_zipIdx member
    exact covered place from' upTo
  rw [coveredChars, all, List.zipIdx_map_fst]

theorem coveredChars_congr {ts us : List Token} {offset : Nat} {text : List Char}
    (same : ∀ place, offset ≤ place → isCovered ts place = isCovered us place) :
    coveredChars ts offset text = coveredChars us offset text := by
  unfold coveredChars
  congr 1
  refine List.filter_congr ?_
  rintro ⟨c, place⟩ member
  exact same place (List.le_snd_of_mem_zipIdx member)

/-! ## Rows of lexemes -/

section Rows

variable {previous : Option Kind} {offset : Nat} {text : List Char} {ts : List Token}

theorem Splits.offset_le (splits : Splits previous offset text ts) :
    ∀ t ∈ ts, offset ≤ t.span.offset := by
  induction splits with
  | done => simp [endAt]
  | blank isBlank more ih => exact fun t member => (Nat.le_succ _).trans (ih t member)
  | lexeme first more ih =>
      refine List.forall_mem_cons.mpr ⟨le_rfl, fun t member => ?_⟩
      exact (Nat.le_add_right _ _).trans (ih t member)

theorem Splits.stop_le (splits : Splits previous offset text ts) :
    ∀ t ∈ ts, t.span.stop ≤ offset + text.length := by
  induction splits with
  | done => simp [endAt, Span.stop]
  | blank isBlank more ih =>
      intro t member
      have := ih t member
      rw [List.length_cons]
      omega
  | lexeme first more ih =>
      rw [List.length_append]
      refine List.forall_mem_cons.mpr ⟨?_, fun t member => ?_⟩
      · simp only [Span.stop]
        omega
      · have := ih t member
        omega

theorem Splits.length_pos (splits : Splits previous offset text ts) :
    ∀ t ∈ ts, t.kind ≠ .eof → 1 ≤ t.span.length := by
  induction splits with
  | done => simp [endAt]
  | blank isBlank more ih => exact ih
  | lexeme first more ih =>
      exact List.forall_mem_cons.mpr ⟨fun _ => List.length_pos_of_ne_nil first.chars_ne_nil, ih⟩

theorem Splits.ordered (splits : Splits previous offset text ts) :
    ts.Pairwise fun t u => t.span.stop ≤ u.span.offset := by
  induction splits with
  | done => exact List.pairwise_singleton _ _
  | blank isBlank more ih => exact ih
  | lexeme first more ih => exact List.pairwise_cons.mpr ⟨more.offset_le, ih⟩

theorem Splits.isCovered_of_lt (splits : Splits previous offset text ts) {place : Nat}
    (before : place < offset) : isCovered ts place = false := by
  apply Bool.eq_false_iff.mpr
  rintro covered
  obtain ⟨t, member, from', _⟩ := isCovered_eq_true_iff.mp covered
  have := splits.offset_le t member
  omega

theorem Splits.isBlank_of_uncovered (splits : Splits previous offset text ts) {place : Nat}
    {c : Char} (there : text[place]? = some c) (uncovered : isCovered ts (offset + place) = false) :
    isBlank c = true := by
  induction splits generalizing place with
  | done => cases there
  | blank isBlank more ih =>
      cases place with
      | zero =>
          cases there
          exact isBlank
      | succ place =>
          apply ih there
          rwa [Nat.add_assoc, Nat.add_comm 1]
  | @lexeme _ offset chars after kind literal ts first more ih =>
      rw [isCovered_cons, Bool.or_eq_false_iff] at uncovered
      obtain ⟨notFirst, notMore⟩ := uncovered
      have behind : chars.length ≤ place := by
        by_contra inside
        refine absurd (Span.covers_iff.mpr ⟨?_, ?_⟩) (Bool.eq_false_iff.mp notFirst)
        · exact Nat.le_add_right _ _
        · simp only [Span.stop]
          omega
      rw [List.getElem?_append_right behind] at there
      apply ih there
      rwa [Nat.add_assoc, Nat.add_sub_cancel' behind]

theorem Splits.joined_lexemes (splits : Splits previous offset text ts) :
    ts.flatMap (·.lexeme.toList) = coveredChars ts offset text := by
  induction splits with
  | done => rfl
  | @blank _ offset c rest ts isBlank more ih =>
      have uncovered : coveredChars ts offset [c] = [] := by
        simp [coveredChars, more.isCovered_of_lt (Nat.lt_succ_self offset)]
      rw [ih, ← List.singleton_append, coveredChars_append, uncovered, List.nil_append,
        List.length_singleton]
  | @lexeme _ offset chars after kind literal ts first more ih =>
      let t : Token := ⟨kind, String.ofList chars, literal, ⟨offset, chars.length⟩⟩
      have here : coveredChars (t :: ts) offset chars = chars := by
        refine coveredChars_eq_self fun place from' upTo => ?_
        exact isCovered_eq_true_iff.mpr ⟨t, List.mem_cons_self, from', upTo⟩
      have behind : coveredChars (t :: ts) (offset + chars.length) after =
          coveredChars ts (offset + chars.length) after := by
        refine coveredChars_congr fun place from' => ?_
        rw [isCovered_cons, Bool.or_eq_right_iff_imp]
        intro covered
        have upTo : place < offset + chars.length := (Span.covers_iff.mp covered).2
        omega
      rw [List.flatMap_cons, ih, coveredChars_append, here, behind, String.toList_ofList]

end Rows

/-! ## Whole texts -/

theorem not_isBlank_of_ofChars {text : List Char} {ts : List Token} (ok : ofChars text = .ok ts) :
    (∀ c, text.head? = some c → isBlank c = false) ∧
      ∀ c, text.getLast? = some c → isBlank c = false := by
  unfold ofChars at ok
  split at ok
  · cases ok
  next notFirst =>
  split at ok
  · cases ok
  next notLast =>
  constructor <;> intro c isEnd
  · simpa [isEnd] using notFirst
  · simpa [isEnd] using notLast

/-- A place that no token covers has tokens on either side, since the ends of the text are
    covered. -/
theorem exists_around {text : List Char} {ts : List Token} (ok : ofChars text = .ok ts)
    {place : Nat} (inside : place < text.length) (uncovered : isCovered ts place = false) :
    (∃ t ∈ ts, t.kind ≠ .eof ∧ t.span.stop ≤ place) ∧
      ∃ t ∈ ts, t.kind ≠ .eof ∧ place < t.span.offset := by
  have splits := splits_of_ofChars ok
  obtain ⟨notFirst, notLast⟩ := not_isBlank_of_ofChars ok
  have covered {edge : Nat} (within : edge < text.length) (notBlank : isBlank text[edge] = false) :
      ∃ t ∈ ts, t.kind ≠ .eof ∧ t.span.offset ≤ edge ∧ edge < t.span.stop ∧
        (place < t.span.offset ∨ t.span.stop ≤ place) := by
    have isCovered : isCovered ts edge = true := by
      by_contra uncovered
      have isBlank := splits.isBlank_of_uncovered (List.getElem?_eq_getElem within)
        (by simpa using uncovered)
      rw [isBlank] at notBlank
      cases notBlank
    obtain ⟨t, member, from', upTo⟩ := isCovered_eq_true_iff.mp isCovered
    refine ⟨t, member, ?_, from', upTo, ?_⟩
    · intro isEnd
      obtain ⟨before, rfl, endFree⟩ := splits.ended
      rcases List.mem_append.mp member with inner | last
      · exact endFree t inner isEnd
      · obtain rfl := List.mem_singleton.mp last
        simp only [endAt, Span.stop] at upTo from'
        omega
    · by_contra both
      rw [not_or, Nat.not_lt, Nat.not_le] at both
      exact absurd (isCovered_eq_true_iff.mpr ⟨t, member, both⟩) (by simp [uncovered])
  constructor
  · have first : isBlank text[0] = false := by
      apply notFirst
      rw [List.head?_eq_getElem?]
      exact List.getElem?_eq_getElem _
    obtain ⟨t, member, notEnd, from', _, apart⟩ := covered (by omega) first
    exact ⟨t, member, notEnd, by omega⟩
  · have last : isBlank text[text.length - 1] = false := by
      apply notLast
      rw [List.getLast?_eq_getElem?]
      exact List.getElem?_eq_getElem _
    obtain ⟨t, member, notEnd, _, upTo, apart⟩ := covered (by omega) last
    exact ⟨t, member, notEnd, by omega⟩

/-- Splitting a query into tokens loses nothing: the tokens cover it, but for blanks between
    them. -/
theorem covers_of_ofQuery {source : String} {ts : List Token} (ok : ofQuery source = .ok ts) :
    Covers source.toList ts := by
  have ok := ofQuery_eq_ok_iff.mp ok
  have splits := splits_of_ofChars ok
  obtain ⟨before, same, endFree⟩ := splits.ended
  have inner : ts.dropLast = before := by rw [same, List.dropLast_concat]
  have mem_inner {t : Token} (member : t ∈ ts) (notEnd : t.kind ≠ .eof) : t ∈ ts.dropLast := by
    rw [same] at member
    rcases List.mem_append.mp member with member | last
    · rwa [inner]
    · obtain rfl := List.mem_singleton.mp last
      exact absurd rfl notEnd
  refine ⟨splits.ordered, ?_, ?_, ?_, ?_, splits.joined_lexemes⟩
  · intro t member
    exact ⟨by simpa using splits.stop_le t member, (Splits.placed [] splits t member).1⟩
  · intro t member
    refine splits.length_pos t (List.dropLast_subset ts member) (endFree t ?_)
    rwa [inner] at member
  · intro place c there uncovered
    have inside : place < source.toList.length := (List.getElem?_eq_some_iff.mp there).1
    obtain ⟨⟨t, tMember, tMark, tBefore⟩, u, uMember, uMark, uBehind⟩ :=
      exists_around ok inside uncovered
    refine ⟨splits.isBlank_of_uncovered there (by simpa using uncovered), ?_, ?_⟩
    · exact ⟨t, mem_inner tMember tMark, tBefore⟩
    · exact ⟨u, mem_inner uMember uMark, uBehind⟩
  · rw [same, List.getLast?_concat, Nat.zero_add]

/-- Places are counted in characters, also beyond ASCII. -/
def accentedTokens : List Token :=
  [⟨.root, "$", none, ⟨0, 1⟩⟩, ⟨.dot, ".", none, ⟨1, 1⟩⟩, ⟨.identifier, "é", none, ⟨2, 1⟩⟩,
    ⟨.leftBracket, "[", none, ⟨5, 1⟩⟩, ⟨.string, "'ü'", some (.text "ü"), ⟨7, 3⟩⟩,
    ⟨.rightBracket, "]", none, ⟨10, 1⟩⟩, endAt 11]

theorem covers_of_ofQuery_accented :
    ofQuery "$.é  [ 'ü']" = .ok accentedTokens ∧ Covers "$.é  [ 'ü']".toList accentedTokens := by
  have read : ofQuery "$.é  [ 'ü']" = .ok accentedTokens := by decide +kernel
  exact ⟨read, covers_of_ofQuery read⟩

end Token

end JsonQuery

import JsonQuery.Proofs.Placement

/-! # Blanks between tokens

What a lexeme is depends on a little of the text behind it: on the next character, and for a name on
the next one that is no blank. Both stay the same when the blanks between the tokens are written
anew, as long as the tokens that are joined to the next character stay joined. So a query does not
change with its blanks.
-/

namespace JsonQuery.Token

open JsonQuery.Text

/-- No blank may stand behind a token of these kinds. -/
def Kind.joins (kind : Kind) : Bool := kind ∈ [.dot, .doubleDot, .minus, .function]

/-- The lexemes of the tokens in their order, with blanks between those that are not joined. -/
inductive Respaced : List Token → List Char → Prop where
  | nil : Respaced [] []
  | last (t : Token) : Respaced [t] t.lexeme.toList
  | joined {t next : Token} {rest : List Token} {text : List Char} (joins : t.kind.joins = true)
      (more : Respaced (next :: rest) text) : Respaced (t :: next :: rest) (t.lexeme.toList ++ text)
  | spaced {t next : Token} {rest : List Token} {blanks text : List Char}
      (free : t.kind.joins = false) (nonempty : blanks ≠ [])
      (blank : ∀ c ∈ blanks, isBlank c = true) (more : Respaced (next :: rest) text) :
      Respaced (t :: next :: rest) (t.lexeme.toList ++ (blanks ++ text))

/-- The first character that is no blank. -/
def firstMark (text : List Char) : Option Char := (text.dropWhile isBlank).head?

/-- What decides on a token of the given kind is the same behind it: the next character, if the
    token is joined to it, and otherwise a blank or the end in front of the same character. -/
structure SameBehind (kind : Kind) (before after : List Char) : Prop where
  joined : kind.joins = true → after.head? = before.head?
  free : kind.joins = false → ∀ c, after.head? = some c → isBlank c = true
  mark : firstMark after = firstMark before

/-! ## Blanks -/

section Blanks

variable {c : Char} {text blanks : List Char}

theorem isBlank_eq_true_iff : isBlank c = true ↔ c = ' ' ∨ c = '\t' ∨ c = '\n' ∨ c = '\r' := by
  simp only [isBlank, Bool.or_eq_true, beq_iff_eq, or_assoc]

theorem not_isNameChar_of_isBlank (blank : isBlank c = true) : isNameChar c = false := by
  rcases isBlank_eq_true_iff.mp blank with rfl | rfl | rfl | rfl <;> decide

theorem endsNumeral_of_blank (blank : ∀ c, text.head? = some c → isBlank c = true) :
    EndsNumeral text := by
  intro c first
  rcases isBlank_eq_true_iff.mp (blank c first) with rfl | rfl | rfl | rfl <;> decide

theorem firstMark_eq_head? (notBlank : ∀ c, text.head? = some c → isBlank c = false) :
    firstMark text = text.head? := by
  cases text with
  | nil => rfl
  | cons c rest => rw [firstMark, List.dropWhile_cons_of_neg (by simp [notBlank c rfl])]

theorem firstMark_append (blank : ∀ c ∈ blanks, isBlank c = true) :
    firstMark (blanks ++ text) = firstMark text := by
  rw [firstMark, List.dropWhile_append_of_pos blank, firstMark]

theorem firstMark_not_blank (first : firstMark text = some c) : isBlank c = false :=
  head?_dropWhile first

theorem tokensFrom_blanks (blank : ∀ c ∈ blanks, isBlank c = true) (previous : Option Kind)
    (offset : Nat) :
    tokensFrom previous offset (blanks ++ text) =
      tokensFrom previous (offset + blanks.length) text := by
  induction blanks generalizing offset with
  | nil => rfl
  | cons c blanks ih =>
      obtain ⟨first, rest⟩ := List.forall_mem_cons.mp blank
      rw [List.cons_append, tokensFrom_blank first, ih rest, List.length_cons, Nat.add_assoc,
        Nat.add_comm 1]

end Blanks

/-! ## Lexemes in front of another text -/

section Lexemes

variable {previous : Option Kind} {after after' chars : List Char} {kind : Kind}
  {literal : Option Literal}

theorem free_of_isPlain (plain : kind.isPlain = true) : kind.joins = false := by
  cases kind <;> first | rfl | cases plain

theorem WordKind.behind {name : String} (isKind : WordKind previous name after kind)
    (same : SameBehind kind after after') : WordKind previous name after' kind := by
  cases isKind with
  | member dotted => exact .member dotted
  | keyword free known => exact .keyword free known
  | function free other opens => exact .function free other ((same.joined rfl).trans opens)
  | name free other closed apart =>
      refine .name free other ?_ ?_
      · intro opens
        exact absurd (same.free rfl _ opens) (by decide)
      · rintro ⟨isFunction, opens⟩
        exact apart ⟨isFunction, same.mark.symm.trans opens⟩

theorem Lexeme.behind (lexeme : Lexeme previous after chars kind literal)
    (same : SameBehind kind after after') : Lexeme previous after' chars kind literal := by
  cases lexeme with
  | sign isSign => exact .sign isSign
  | dot single joined =>
      have next := same.joined rfl
      exact .dot (next ▸ single) (next ▸ joined)
  | dots joined =>
      have next := same.joined rfl
      exact .dots (next ▸ joined)
  | short isSign single =>
      apply Lexeme.short isSign
      intro equals
      have free := free_of_isPlain (isPlain_of_extensible? isSign).1
      exact absurd (same.free free _ equals) (by decide)
  | long isSign => exact .long isSign
  | doubled isSign => exact .doubled isSign
  | minus first digit => exact .minus ((same.joined rfl).trans first) digit
  | string isQuote spelling => exact .string isQuote spelling
  | number wf isMark isValue => exact .number wf isMark isValue
  | word first all ends isKind =>
      refine .word first all ?_ (isKind.behind same)
      intro d isNext
      cases joins : kind.joins with
      | true => exact ends d ((same.joined joins).symm.trans isNext)
      | false => exact not_isNameChar_of_isBlank (same.free joins d isNext)

/-! ### Characters of lexemes -/

theorem not_isBlank_of_isNameChar {c : Char} (isChar : isNameChar c = true) : isBlank c = false := by
  apply Bool.eq_false_iff.mpr
  intro blank
  rw [not_isNameChar_of_isBlank blank] at isChar
  cases isChar

theorem Numeral.WellFormed.not_blank {n : Numeral} (wf : n.WellFormed) {mark : Char}
    (isMark : mark = 'e' ∨ mark = 'E') : ∀ c ∈ n.spelled mark, isBlank c = false := by
  obtain ⟨whole, fraction, exponent⟩ := n
  have digits {run : List Char} (all : ∀ c ∈ run, isDigit c = true) :
      ∀ c ∈ run, isBlank c = false := fun c member => not_isBlank_of_isDigit (all c member)
  have fractionPart : ∀ c ∈ Numeral.fractionChars ⟨whole, fraction, exponent⟩, isBlank c = false := by
    cases fraction with
    | none => simp [Numeral.fractionChars]
    | some f => simpa [Numeral.fractionChars] using ⟨rfl, digits (wf.fraction f rfl).2⟩
  have exponentPart : ∀ c ∈ Numeral.exponentSpelled mark ⟨whole, fraction, exponent⟩,
      isBlank c = false := by
    cases exponent with
    | none => simp [Numeral.exponentSpelled]
    | some e =>
        obtain ⟨_, all, sign⟩ := wf.exponent e rfl
        simp only [Numeral.exponentSpelled, Option.map_some, Option.getD_some, Exponent.spelled,
          List.forall_mem_cons, List.forall_mem_append, Option.mem_toList]
        refine ⟨?_, ?_, digits all⟩
        · rcases isMark with rfl | rfl <;> decide
        · intro c isSign
          rcases sign c isSign with rfl | rfl <;> decide
  simp only [Numeral.spelled, List.forall_mem_append]
  exact ⟨digits wf.whole, fractionPart, exponentPart⟩

theorem not_isBlank_of_sign {c : Char} (isSign : (sign? c).isSome = true ∨
    (extensible? c).isSome = true ∨ (doubled? c).isSome = true) : isBlank c = false := by
  apply Bool.eq_false_iff.mpr
  intro blank
  rcases isBlank_eq_true_iff.mp blank with rfl | rfl | rfl | rfl <;> revert isSign <;> decide

theorem Lexeme.edges (lexeme : Lexeme previous after chars kind literal) {c : Char}
    (edge : chars.head? = some c ∨ chars.getLast? = some c) : isBlank c = false := by
  have inner (all : ∀ d ∈ chars, isBlank d = false) : isBlank c = false := by
    rcases edge with first | last
    · exact all c (List.mem_of_head? first)
    · exact all c (List.mem_of_getLast? last)
  cases lexeme with
  | sign isSign => exact inner (by simpa using not_isBlank_of_sign (.inl (by simp [isSign])))
  | short isSign =>
      have notBlank := not_isBlank_of_sign (.inr (.inl (by rw [isSign]; rfl)))
      exact inner (by simpa using notBlank)
  | long isSign =>
      have notBlank := not_isBlank_of_sign (.inr (.inl (by rw [isSign]; rfl)))
      exact inner (by simpa using ⟨notBlank, by decide⟩)
  | doubled isSign =>
      have notBlank := not_isBlank_of_sign (.inr (.inr (by rw [isSign]; rfl)))
      exact inner (by simpa using notBlank)
  | dot | dots | minus => exact inner (by simp; decide)
  | @string quote body decoded isQuote spelling =>
      rw [← List.cons_append, List.getLast?_concat] at edge
      have isEdge : quote = c := by simpa using edge
      subst isEdge
      rcases isQuote with rfl | rfl <;> decide
  | number wf isMark isValue => exact inner (wf.not_blank isMark)
  | word first all ends isKind =>
      refine inner (List.forall_mem_cons.mpr ⟨?_, fun d member => ?_⟩)
      · exact not_isBlank_of_isNameChar (isNameChar_of_isNameFirst first)
      · exact not_isBlank_of_isNameChar (all d member)

/-- No blank stands behind a lexeme that is joined to the next character. -/
theorem Lexeme.not_blank_behind (lexeme : Lexeme previous after chars kind literal)
    (joins : kind.joins = true) {c : Char} (next : after.head? = some c) : isBlank c = false := by
  have notPlain : kind.isPlain ≠ true := by
    intro plain
    rw [free_of_isPlain plain] at joins
    cases joins
  cases lexeme with
  | sign isSign => exact absurd (isPlain_of_sign? isSign) notPlain
  | short isSign => exact absurd (isPlain_of_extensible? isSign).1 notPlain
  | long isSign => exact absurd (isPlain_of_extensible? isSign).2 notPlain
  | doubled isSign => exact absurd (isPlain_of_doubled? isSign) notPlain
  | dot single joined => simpa [next] using joined
  | dots joined => simpa [next] using joined
  | minus first digit =>
      rw [next] at first
      cases first
      exact not_isBlank_of_isDigit digit
  | string | number => exact absurd joins (by decide)
  | word first all ends isKind =>
      cases isKind with
      | member | name => exact absurd joins (by decide)
      | keyword free known => exact absurd (isPlain_of_keywords known) notPlain
      | function free other opens =>
          rw [next] at opens
          cases opens
          decide

/-! ### Reading a lexeme -/

theorem pieceAt_of_sign? {c : Char} (isSign : sign? c = some kind) (rest : List Char) :
    pieceAt previous c rest = .ok (.plain kind 1) := by
  unfold sign? at isSign
  split at isSign <;> cases isSign <;> rfl

theorem pieceAt_of_extensible? {c : Char} {one two : Kind}
    (isSign : extensible? c = some (one, two)) (rest : List Char) :
    pieceAt previous c rest = .ok (oneOrTwo '=' one two rest) := by
  unfold extensible? at isSign
  split at isSign <;> cases isSign <;> rfl

theorem pieceAt_of_doubled? {c : Char} (isSign : doubled? c = some kind) (rest : List Char) :
    pieceAt previous c rest = exactlyTwo c c kind rest := by
  unfold doubled? at isSign
  split at isSign <;> cases isSign <;> rfl

theorem Lexeme.pieceAt {c : Char} {more : List Char}
    (lexeme : Lexeme previous after (c :: more) kind literal)
    (ends : kind = .number → EndsNumeral after) :
    pieceAt previous c (more ++ after) = .ok ⟨kind, (c :: more).length, literal⟩ := by
  generalize same : c :: more = chars at lexeme
  cases lexeme with
  | sign isSign =>
      cases same
      exact pieceAt_of_sign? isSign _
  | dot single joined =>
      cases same
      change Token.dots after = _
      simp [Token.dots, oneOrTwo, if_neg single, joined, Piece.plain]
  | dots joined =>
      cases same
      change Token.dots ('.' :: after) = _
      simp [Token.dots, oneOrTwo, joined, Piece.plain]
  | short isSign single =>
      cases same
      rw [pieceAt_of_extensible? isSign, List.nil_append, oneOrTwo, if_neg single]
      rfl
  | long isSign =>
      cases same
      rw [pieceAt_of_extensible? isSign]
      rfl
  | doubled isSign =>
      cases same
      have again : ([c] ++ after).head? = some c := rfl
      rw [pieceAt_of_doubled? isSign, exactlyTwo, if_pos again]
      rfl
  | @minus d first digit =>
      cases same
      obtain ⟨rest, rfl⟩ := List.head?_eq_some_iff.mp first
      have read : Token.pieceAt previous '-' (d :: rest) = minusSign (d :: rest) := rfl
      rw [List.nil_append, read, minusSign, if_pos digit]
      rfl
  | @string quote body decoded isQuote spelling =>
      cases same
      have read : stringLiteral c (body ++ [c] ++ after) =
          .ok ⟨.string, body.length + 2, some (.text (String.ofList decoded))⟩ :=
        (stringLiteral_eq_ok_iff isQuote).mpr ⟨body, decoded, after, by simp, spelling, rfl⟩
      have size : (c :: (body ++ [c])).length = body.length + 2 := by simp
      rw [size, ← read]
      rcases isQuote with rfl | rfl <;> rfl
  | @number n mark value wf isMark isValue =>
      have digit := wf.isDigit_of_spelled same.symm
      rw [pieceAt_digit digit, ← List.cons_append, same]
      exact numeral_spelled isMark wf isValue (ends rfl)
  | word first all notName isKind =>
      cases same
      rw [pieceAt_name first]
      have chars : ∀ d ∈ c :: more, isNameChar d = true :=
        List.forall_mem_cons.mpr ⟨isNameChar_of_isNameFirst first, all⟩
      apply nameOrKeyword_eq_ok_iff.mpr
      rw [← List.cons_append, takeWhile_run chars notName, dropWhile_run chars notName]
      exact ⟨kind, rfl, isKind⟩

/-- A lexeme is read as its token, and what stands behind it is read on its own. -/
theorem Lexeme.tokensFrom_append (lexeme : Lexeme previous after chars kind literal)
    (ends : kind = .number → EndsNumeral after) (offset : Nat) :
    tokensFrom previous offset (chars ++ after) =
      (tokensFrom (some kind) (offset + chars.length) after).map
        (⟨kind, String.ofList chars, literal, ⟨offset, chars.length⟩⟩ :: ·) := by
  obtain ⟨c, more, rfl⟩ := List.exists_cons_of_ne_nil lexeme.chars_ne_nil
  have notBlank : isBlank c = false := lexeme.edges (.inl rfl)
  rw [List.cons_append, tokensFrom_piece notBlank (lexeme.pieceAt ends)]
  simp [ofPiece]

/-- A lexeme spells its token, unless it is a dot, which changes what the next one is. -/
theorem Lexeme.spells {follow : List Char → Prop}
    (lexeme : ∀ rest, follow rest → Lexeme none rest chars kind literal)
    (ends : kind = .number → ∀ rest, follow rest → EndsNumeral rest) (dot : kind ≠ .dot)
    (dots : kind ≠ .doubleDot) : Spells follow chars (IsToken kind chars literal) := by
  intro offset rest follows
  refine ⟨[⟨kind, String.ofList chars, literal, ⟨offset, chars.length⟩⟩], ⟨_, rfl⟩, ?_⟩
  rw [(lexeme rest follows).tokensFrom_append (fun isNumber => ends isNumber rest follows),
    tokensFrom_of_not_dot dot dots]
  rfl

/-- A lexeme that ends the text, or has the next character or a blank behind it as it had before, is
    read as the same token. -/
theorem Lexeme.tokensFrom (lexeme : Lexeme previous after chars kind literal)
    (same : SameBehind kind after after') (offset : Nat) :
    tokensFrom previous offset (chars ++ after') =
      (tokensFrom (some kind) (offset + chars.length) after').map
        (⟨kind, String.ofList chars, literal, ⟨offset, chars.length⟩⟩ :: ·) := by
  have ends : kind = .number → EndsNumeral after' := by
    rintro rfl
    exact endsNumeral_of_blank (same.free rfl)
  exact (lexeme.behind same).tokensFrom_append ends offset

end Lexemes

/-! ## Rows of lexemes -/

/-- The tokens but the end mark. -/
def marks (ts : List Token) : List Token := ts.filter (·.kind ≠ .eof)

theorem marks_lexeme {kind : Kind} (notEnd : kind ≠ .eof) (lexeme : String)
    (literal : Option Literal) (span : Span) (ts : List Token) :
    marks (⟨kind, lexeme, literal, span⟩ :: ts) = ⟨kind, lexeme, literal, span⟩ :: marks ts :=
  List.filter_cons_of_pos (by simpa using notEnd)

/-- A text that is read as the given tokens, wherever they stand, and begins as another one does. -/
structure ReadsAlike (previous : Option Kind) (before after : List Char) (ts : List Token) : Prop where
  read : ∀ offset, ∃ us, tokensFrom previous offset after = .ok us ∧ Parser.Alike ts us
  first : after.head? = firstMark before

theorem ReadsAlike.not_blank {previous : Option Kind} {before after : List Char} {ts : List Token}
    (reads : ReadsAlike previous before after ts) {c : Char} (first : after.head? = some c) :
    isBlank c = false :=
  firstMark_not_blank (reads.first.symm.trans first)

theorem ReadsAlike.firstMark {previous : Option Kind} {before after : List Char} {ts : List Token}
    (reads : ReadsAlike previous before after ts) : firstMark after = firstMark before := by
  rw [firstMark_eq_head? fun _ first => reads.not_blank first, reads.first]

theorem ReadsAlike.cons {previous : Option Kind} {offset : Nat} {chars before after : List Char}
    {kind : Kind} {literal : Option Literal} {ts : List Token}
    (first : Lexeme previous before chars kind literal) (same : SameBehind kind before after)
    (read : ∀ offset, ∃ us, tokensFrom (some kind) offset after = .ok us ∧ Parser.Alike ts us) :
    ReadsAlike previous (chars ++ before) (chars ++ after)
      (⟨kind, String.ofList chars, literal, ⟨offset, chars.length⟩⟩ :: ts) where
  read := by
    intro place
    obtain ⟨us, isRead, alike⟩ := read (place + chars.length)
    refine ⟨_, by rw [first.tokensFrom same, isRead]; rfl, ?_⟩
    exact congrArg (_ :: ·) alike
  first := by
    obtain ⟨c, more, rfl⟩ := List.exists_cons_of_ne_nil first.chars_ne_nil
    have notBlank : isBlank c = false := first.edges (.inl rfl)
    rw [firstMark_eq_head? (by simpa using notBlank)]
    rfl

theorem Splits.readsAlike {previous : Option Kind} {offset : Nat} {text : List Char} {ts : List Token}
    (splits : Splits previous offset text ts) {text' : List Char}
    (respaced : Respaced (marks ts) text') : ReadsAlike previous text text' ts := by
  induction splits generalizing text' with
  | done =>
      cases respaced with
      | nil => exact ⟨fun offset => ⟨[endAt offset], by rw [tokensFrom], rfl⟩, rfl⟩
  | blank isBlank more ih =>
      have reads := ih respaced
      refine ⟨reads.read, ?_⟩
      rw [reads.first, Token.firstMark, Token.firstMark, List.dropWhile_cons_of_pos isBlank]
  | @lexeme _ offset chars after kind literal ts first more ih =>
      rw [marks_lexeme first.kind_ne_eof] at respaced
      generalize rest : marks ts = us at respaced ih
      cases respaced with
      | last =>
          have reads := ih .nil
          have same : SameBehind kind after [] := {
            joined := by
              intro joins
              rw [← firstMark_eq_head? fun _ next => first.not_blank_behind joins next]
              exact reads.first
            free := by simp
            mark := reads.first }
          simpa using ReadsAlike.cons first same reads.read
      | @joined _ next rest text joins moreSpaced =>
          have reads := ih moreSpaced
          have same : SameBehind kind after text := {
            joined := by
              intro joins
              rw [← firstMark_eq_head? fun _ next => first.not_blank_behind joins next]
              exact reads.first
            free := by
              intro free
              rw [show kind.joins = true from joins] at free
              cases free
            mark := reads.firstMark }
          simpa using ReadsAlike.cons first same reads.read
      | @spaced _ next rest blanks text free nonempty blank moreSpaced =>
          have reads := ih moreSpaced
          have same : SameBehind kind after (blanks ++ text) := {
            joined := by
              intro joins
              rw [show kind.joins = false from free] at joins
              cases joins
            free := by
              intro _ c isNext
              obtain ⟨d, others, rfl⟩ := List.exists_cons_of_ne_nil nonempty
              obtain rfl : d = c := Option.some.inj isNext
              exact blank d List.mem_cons_self
            mark := by rw [firstMark_append blank, reads.firstMark] }
          have read : ∀ offset, ∃ us, tokensFrom (some kind) offset (blanks ++ text) = .ok us ∧
              Parser.Alike ts us := by
            intro offset
            rw [tokensFrom_blanks blank]
            exact reads.read _
          simpa using ReadsAlike.cons first same read

/-! ## Whole texts -/

/-- The lexeme has a last character, and that is no blank. -/
def EndsInMark (t : Token) : Prop :=
  t.lexeme.toList ≠ [] ∧ ∀ c, t.lexeme.toList.getLast? = some c → isBlank c = false

theorem Splits.endsInMark {previous : Option Kind} {offset : Nat} {text : List Char}
    {ts : List Token} (splits : Splits previous offset text ts) : ∀ t ∈ marks ts, EndsInMark t := by
  induction splits with
  | done => simp [marks, endAt]
  | blank isBlank more ih => exact ih
  | lexeme first more ih =>
      rw [marks_lexeme first.kind_ne_eof]
      refine List.forall_mem_cons.mpr ⟨?_, ih⟩
      unfold EndsInMark
      rw [String.toList_ofList]
      exact ⟨first.chars_ne_nil, fun c last => first.edges (.inr last)⟩

theorem Respaced.ne_nil {t : Token} {ts : List Token} {text : List Char}
    (respaced : Respaced (t :: ts) text) (ends : EndsInMark t) : text ≠ [] := by
  obtain ⟨nonempty, _⟩ := ends
  cases respaced <;> simp_all

theorem Respaced.not_blank_last {ts : List Token} {text : List Char} (respaced : Respaced ts text)
    (ends : ∀ t ∈ ts, EndsInMark t) {c : Char} (last : text.getLast? = some c) :
    isBlank c = false := by
  induction respaced with
  | nil => cases last
  | last t => exact (ends t List.mem_cons_self).2 c last
  | joined joins more ih =>
      obtain ⟨_, endsMore⟩ := List.forall_mem_cons.mp ends
      rw [List.getLast?_append_of_ne_nil _ (more.ne_nil (endsMore _ List.mem_cons_self))] at last
      exact ih endsMore last
  | spaced free nonempty blank more ih =>
      obtain ⟨_, endsMore⟩ := List.forall_mem_cons.mp ends
      have notNil := more.ne_nil (endsMore _ List.mem_cons_self)
      rw [List.getLast?_append_of_ne_nil _ (List.append_ne_nil_of_right_ne_nil _ notNil),
        List.getLast?_append_of_ne_nil _ notNil] at last
      exact ih endsMore last

/-- The tokens of a text are read from every text that differs only in the blanks between them. -/
theorem ofChars_of_respaced {text text' : List Char} {ts : List Token} (ok : ofChars text = .ok ts)
    (respaced : Respaced (marks ts) text') :
    ∃ us, ofChars text' = .ok us ∧ Parser.Alike ts us := by
  have splits := splits_of_ofChars ok
  have reads := splits.readsAlike respaced
  obtain ⟨us, read, alike⟩ := reads.read 0
  refine ⟨us, ?_, alike⟩
  rw [ofChars_eq_tokensFrom (fun _ first => reads.not_blank first)
    (fun _ last => respaced.not_blank_last splits.endsInMark last), read]

end JsonQuery.Token

namespace JsonQuery

/-- Blanks between tokens make no difference: a text with the same lexemes in the same order, with
    any blanks between those that are not joined, has the same tokens and is compiled to the same
    chain or rejected with the same words. -/
theorem Query.compile_respaced {source respaced : String} {ts : List Token}
    (ok : Token.ofQuery source = .ok ts)
    (spaced : Token.Respaced (Token.marks ts) respaced.toList) :
    ∃ us, Token.ofQuery respaced = .ok us ∧
      us.map Token.unplaced = ts.map Token.unplaced ∧
      SameOutcome (compile source) (compile respaced) := by
  obtain ⟨us, read, alike⟩ := Token.ofChars_of_respaced (Token.ofQuery_eq_ok_iff.mp ok) spaced
  have ok' := Token.ofQuery_eq_ok_iff.mpr read
  refine ⟨us, ok', alike.symm, ?_⟩
  unfold compile
  rw [ok, ok']
  exact sameOutcome_of_alike (Token.suited_of_ofQuery ok) (Token.suited_of_ofQuery ok') alike source
    respaced

/-- The tokens of a query with a member name, a function and a negative number. -/
def comparisonTokens : List Token :=
  [⟨.root, "$", none, ⟨0, 1⟩⟩, ⟨.leftBracket, "[", none, ⟨1, 1⟩⟩, ⟨.question, "?", none, ⟨2, 1⟩⟩,
    ⟨.function, "length", none, ⟨3, 6⟩⟩, ⟨.leftParen, "(", none, ⟨9, 1⟩⟩,
    ⟨.current, "@", none, ⟨10, 1⟩⟩, ⟨.dot, ".", none, ⟨11, 1⟩⟩, ⟨.identifier, "a", none, ⟨12, 1⟩⟩,
    ⟨.rightParen, ")", none, ⟨13, 1⟩⟩, ⟨.lt, "<", none, ⟨14, 1⟩⟩, ⟨.minus, "-", none, ⟨15, 1⟩⟩,
    ⟨.number, "1", some (.number (.int 1)), ⟨16, 1⟩⟩, ⟨.rightBracket, "]", none, ⟨17, 1⟩⟩,
    Token.endAt 18]

theorem Query.compile_respaced_comparison :
    Token.ofQuery "$[?length(@.a)<-1]" = .ok comparisonTokens ∧
      Token.Respaced (Token.marks comparisonTokens) "$ [\t? length( @ .a )\r\n< -1 ]".toList ∧
        ∃ us, Token.ofQuery "$ [\t? length( @ .a )\r\n< -1 ]" = .ok us ∧
          us.map Token.unplaced = comparisonTokens.map Token.unplaced ∧
          SameOutcome (compile "$[?length(@.a)<-1]")
            (compile "$ [\t? length( @ .a )\r\n< -1 ]") := by
  have read : Token.ofQuery "$[?length(@.a)<-1]" = .ok comparisonTokens := by decide +kernel
  have space : ∀ c ∈ [' '], Token.isBlank c = true := List.forall_mem_singleton.mpr rfl
  have tab : ∀ c ∈ ['\t'], Token.isBlank c = true := List.forall_mem_singleton.mpr rfl
  have newline : ∀ c ∈ ['\r', '\n'], Token.isBlank c = true :=
    List.forall_mem_cons.mpr ⟨rfl, List.forall_mem_singleton.mpr rfl⟩
  have spaced : Token.Respaced (Token.marks comparisonTokens)
      "$ [\t? length( @ .a )\r\n< -1 ]".toList :=
    .spaced rfl (List.cons_ne_nil _ _) space <| .spaced rfl (List.cons_ne_nil _ _) tab <|
      .spaced rfl (List.cons_ne_nil _ _) space <| .joined rfl <|
      .spaced rfl (List.cons_ne_nil _ _) space <|
      .spaced rfl (List.cons_ne_nil _ _) space <| .joined rfl <|
      .spaced rfl (List.cons_ne_nil _ _) space <|
      .spaced rfl (List.cons_ne_nil _ _) newline <|
      .spaced rfl (List.cons_ne_nil _ _) space <| .joined rfl <|
      .spaced rfl (List.cons_ne_nil _ _) space <| .last _
  exact ⟨read, spaced, Query.compile_respaced read spaced⟩

end JsonQuery

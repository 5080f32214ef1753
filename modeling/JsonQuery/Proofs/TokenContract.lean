import Mathlib.Data.List.Chain
import JsonQuery.Proofs.Splitting

/-! # What the parser may rely on

The parser takes some facts about its tokens for granted: a minus sign is followed by a number, the
name of a function by its parenthesis, and numbers come with their value, which has no sign. All of
them hold of the tokens of a text.
-/

namespace JsonQuery.Token

open JsonQuery.Text

/-- The characters of a token and the value it carries. Digits alone are an exact integer as long as
    it has no more than 63 bits, and every other numeral is a double. Only numbers and strings carry
    a value. -/
inductive Carries : Kind → List Char → Option Literal → Prop where
  | integer {digits : List Char} (nonempty : digits ≠ []) (all : ∀ c ∈ digits, isDigit c = true)
      (fits : (decimalValue digits : Int) < Number.signedLimit) :
      Carries .number digits (some (.number (.int (decimalValue digits))))
  | double {chars : List Char} {value : Double}
      (other : ¬((∀ c ∈ chars, isDigit c = true) ∧ (decimalValue chars : Int) < Number.signedLimit))
      (unsigned : value.negative = false) : Carries .number chars (some (.number (.float value)))
  | string {quote : Char} {body decoded : List Char} (isQuote : quote = '"' ∨ quote = '\'')
      (spelling : Spelling quote body decoded) :
      Carries .string (quote :: (body ++ [quote])) (some (.text (String.ofList decoded)))
  | nothing {kind : Kind} {chars : List Char} (notNumber : kind ≠ .number)
      (notString : kind ≠ .string) : Carries kind chars none

/-- What may follow a token. -/
structure Joined (t next : Token) : Prop where
  minus : t.kind = .minus → next.kind = .number ∧ next.span.offset = t.span.offset + 1
  function : t.kind = .function →
    next.kind = .leftParen ∧ next.span.offset = t.span.offset + t.span.length

/-- The tokens of a text, as the parser takes them. -/
structure Suited (text : List Char) (ts : List Token) : Prop where
  ended : ∃ before, ts = before ++ [endAt text.length] ∧ ∀ t ∈ before, t.kind ≠ .eof
  placed : ∀ t ∈ ts, t.lexeme.toList = (text.drop t.span.offset).take t.span.length ∧
    t.span.length = t.lexeme.toList.length
  joined : ts.IsChain Joined
  carried : ∀ t ∈ ts, Carries t.kind t.lexeme.toList t.literal

/-! ## Kinds of lexemes -/

/-- The kinds that carry no value and that no character behind the token decides on. -/
def Kind.isPlain (kind : Kind) : Bool :=
  kind ∉ [.dot, .doubleDot, .minus, .string, .number, .function, .eof]

section Signs

variable {c : Char} {kind one two : Kind}

theorem isPlain_of_sign? (isSign : sign? c = some kind) : kind.isPlain = true := by
  unfold sign? at isSign
  split at isSign <;> cases isSign <;> rfl

theorem isPlain_of_extensible? (isSign : extensible? c = some (one, two)) :
    one.isPlain = true ∧ two.isPlain = true := by
  unfold extensible? at isSign
  split at isSign <;> cases isSign <;> exact ⟨rfl, rfl⟩

theorem isPlain_of_doubled? (isSign : doubled? c = some kind) : kind.isPlain = true := by
  unfold doubled? at isSign
  split at isSign <;> cases isSign <;> rfl

theorem isPlain_of_keywords {name : String} (known : (name, kind) ∈ keywords) :
    kind.isPlain = true := by
  simp only [keywords, List.mem_cons, Prod.mk.injEq, List.not_mem_nil, or_false] at known
  rcases known with ⟨_, rfl⟩ | ⟨_, rfl⟩ | ⟨_, rfl⟩ <;> rfl

theorem not_sign_of_isDigit (digit : isDigit c = true) :
    sign? c = none ∧ extensible? c = none ∧ doubled? c = none := by
  refine ⟨?_, ?_, ?_⟩
  · unfold sign?
    split <;> first | rfl | exact absurd digit (by decide)
  · unfold extensible?
    split <;> first | rfl | exact absurd digit (by decide)
  · unfold doubled?
    split <;> first | rfl | exact absurd digit (by decide)

theorem not_isBlank_of_isDigit (digit : isDigit c = true) : isBlank c = false := by
  apply Bool.eq_false_iff.mpr
  intro blank
  simp only [isBlank, Bool.or_eq_true, beq_iff_eq] at blank
  rcases blank with ((rfl | rfl) | rfl) | rfl <;> exact absurd digit (by decide)

end Signs

section Lexemes

variable {previous : Option Kind} {after chars : List Char} {kind : Kind} {literal : Option Literal}

theorem Lexeme.kind_ne_eof (lexeme : Lexeme previous after chars kind literal) : kind ≠ .eof := by
  rintro rfl
  cases lexeme with
  | sign isSign => cases isPlain_of_sign? isSign
  | short isSign => cases (isPlain_of_extensible? isSign).1
  | long isSign => cases (isPlain_of_extensible? isSign).2
  | doubled isSign => cases isPlain_of_doubled? isSign
  | word first all ends isKind =>
      cases isKind with
      | keyword free known => cases isPlain_of_keywords known

theorem Lexeme.of_minus (lexeme : Lexeme previous after chars .minus literal) :
    chars = ['-'] ∧ ∃ d, after.head? = some d ∧ isDigit d = true := by
  cases lexeme with
  | minus first digit => exact ⟨rfl, _, first, digit⟩
  | sign isSign => cases isPlain_of_sign? isSign
  | short isSign => cases (isPlain_of_extensible? isSign).1
  | long isSign => cases (isPlain_of_extensible? isSign).2
  | doubled isSign => cases isPlain_of_doubled? isSign
  | word first all ends isKind =>
      cases isKind with
      | keyword free known => cases isPlain_of_keywords known

theorem Lexeme.of_function (lexeme : Lexeme previous after chars .function literal) :
    after.head? = some '(' := by
  cases lexeme with
  | word first all ends isKind =>
      cases isKind with
      | keyword free known => cases isPlain_of_keywords known
      | function free other opens => exact opens
  | sign isSign => cases isPlain_of_sign? isSign
  | short isSign => cases (isPlain_of_extensible? isSign).1
  | long isSign => cases (isPlain_of_extensible? isSign).2
  | doubled isSign => cases isPlain_of_doubled? isSign

theorem Lexeme.chars_ne_nil (lexeme : Lexeme previous after chars kind literal) : chars ≠ [] := by
  cases lexeme with
  | number wf isMark isValue => simp [Numeral.spelled, wf.nonempty]
  | sign | dot | dots | short | long | doubled | minus | string | word => simp

theorem Numeral.WellFormed.isDigit_of_spelled {n : Numeral} (wf : n.WellFormed) {mark c : Char}
    {more : List Char} (same : n.spelled mark = c :: more) : isDigit c = true := by
  obtain ⟨d, rest, isWhole⟩ := List.exists_cons_of_ne_nil wf.nonempty
  have digit : isDigit d = true := wf.whole d (by rw [isWhole]; exact List.mem_cons_self)
  rw [Numeral.spelled, isWhole, List.cons_append] at same
  rwa [← (List.cons.inj same).1]

theorem Lexeme.kind_of_digit {c : Char} {more : List Char}
    (lexeme : Lexeme previous after (c :: more) kind literal) (digit : isDigit c = true) :
    kind = .number := by
  obtain ⟨notSign, notExtensible, notDoubled⟩ := not_sign_of_isDigit digit
  generalize same : c :: more = chars at lexeme
  cases lexeme with
  | number => rfl
  | sign isSign =>
      cases same
      rw [notSign] at isSign
      cases isSign
  | short isSign | long isSign =>
      cases same
      rw [notExtensible] at isSign
      cases isSign
  | doubled isSign =>
      cases same
      rw [notDoubled] at isSign
      cases isSign
  | dot | dots | minus =>
      cases same
      exact absurd digit (by decide)
  | string isQuote =>
      cases same
      rcases isQuote with rfl | rfl <;> exact absurd digit (by decide)
  | word first =>
      cases same
      exact absurd digit (not_isDigit_of_isNameFirst first)

theorem Lexeme.kind_of_leftParen {more : List Char}
    (lexeme : Lexeme previous after ('(' :: more) kind literal) : kind = .leftParen := by
  generalize same : '(' :: more = chars at lexeme
  cases lexeme with
  | sign isSign =>
      cases same
      exact (Option.some.inj isSign).symm
  | short isSign | long isSign | doubled isSign =>
      cases same
      cases isSign
  | dot | dots | minus => cases same
  | string isQuote =>
      cases same
      simp at isQuote
  | number wf => exact absurd (wf.isDigit_of_spelled same.symm) (by decide)
  | word first =>
      cases same
      exact absurd first (by decide)

/-! ## Values of lexemes -/

theorem negative_ofDecimal? {negative : Bool} {digits : Nat} {exponent : Int} {value : Double}
    (isSome : Double.ofDecimal? negative digits exponent = some value) :
    value.negative = negative := by
  unfold Double.ofDecimal? Double.ofRank? at isSome
  split at isSome
  · cases isSome
    rfl
  split at isSome
  · cases isSome
  split at isSome
  · cases isSome
    rfl
  split at isSome
  · cases isSome
    rfl
  · cases isSome

theorem Numeral.integral_of_digits {n : Numeral} {mark : Char} (isMark : mark = 'e' ∨ mark = 'E')
    (all : ∀ c ∈ n.spelled mark, isDigit c = true) :
    n.fraction = none ∧ n.exponent = none ∧ n.spelled mark = n.whole := by
  obtain ⟨whole, fraction, exponent⟩ := n
  cases fraction with
  | some f =>
      have point := all '.' (by simp [Numeral.spelled, Numeral.fractionChars])
      exact absurd point (by decide)
  | none =>
      cases exponent with
      | some e =>
          have digit := all mark (by simp [Numeral.spelled, Numeral.exponentSpelled, Exponent.spelled])
          rcases isMark with rfl | rfl <;> exact absurd digit (by decide)
      | none =>
          simp [Numeral.spelled, Numeral.fractionChars, Numeral.exponentSpelled]

theorem carries_numeral {n : Numeral} {mark : Char} {value : Number} (wf : n.WellFormed)
    (isMark : mark = 'e' ∨ mark = 'E') (isValue : n.value? = some value) :
    Carries .number (n.spelled mark) (some (.number value)) := by
  unfold Numeral.value? numeralValue? at isValue
  dsimp only at isValue
  split at isValue
  · next integral =>
      obtain ⟨noFraction, noExponent, fits⟩ := integral
      obtain ⟨whole, fraction, exponent⟩ := n
      simp only [Option.isNone_iff_eq_none, Option.map_eq_none_iff] at noFraction noExponent
      subst noFraction noExponent
      have spelled : Numeral.spelled mark ⟨whole, none, none⟩ = whole := by
        simp [Numeral.spelled, Numeral.fractionChars, Numeral.exponentSpelled]
      cases isValue
      rw [spelled]
      exact .integer wf.nonempty wf.whole fits
  · next other =>
      obtain ⟨double, isDouble, rfl⟩ := Option.map_eq_some_iff.mp isValue
      apply Carries.double
      · rintro ⟨all, fits⟩
        obtain ⟨noFraction, noExponent, same⟩ := Numeral.integral_of_digits isMark all
        rw [same] at fits
        exact other ⟨by simp [noFraction], by simp [noExponent], fits⟩
      · exact negative_ofDecimal? isDouble

theorem carries_of_isPlain (plain : kind.isPlain = true) : Carries kind chars none := by
  apply Carries.nothing <;> rintro rfl <;> cases plain

theorem Lexeme.carries (lexeme : Lexeme previous after chars kind literal) :
    Carries kind chars literal := by
  cases lexeme with
  | string isQuote spelling => exact .string isQuote spelling
  | number wf isMark isValue => exact carries_numeral wf isMark isValue
  | dot | dots | minus => exact .nothing (by decide) (by decide)
  | sign isSign => exact carries_of_isPlain (isPlain_of_sign? isSign)
  | short isSign => exact carries_of_isPlain (isPlain_of_extensible? isSign).1
  | long isSign => exact carries_of_isPlain (isPlain_of_extensible? isSign).2
  | doubled isSign => exact carries_of_isPlain (isPlain_of_doubled? isSign)
  | word first all ends isKind =>
      cases isKind with
      | keyword free known => exact carries_of_isPlain (isPlain_of_keywords known)
      | member | function | name => exact .nothing (by decide) (by decide)

end Lexemes

/-! ## Rows of lexemes -/

theorem Splits.next {previous : Option Kind} {offset : Nat} {c : Char} {rest : List Char}
    {ts : List Token} (splits : Splits previous offset (c :: rest) ts)
    (notBlank : isBlank c = false) :
    ∃ t us more after, ts = t :: us ∧ t.span.offset = offset ∧
      Lexeme previous after (c :: more) t.kind t.literal := by
  generalize same : c :: rest = text at splits
  cases splits with
  | done => cases same
  | blank isBlank =>
      cases same
      exact absurd isBlank (by simp [notBlank])
  | lexeme first more =>
      obtain ⟨d, others, rfl⟩ := List.exists_cons_of_ne_nil first.chars_ne_nil
      obtain ⟨rfl, _⟩ := List.cons.inj same
      exact ⟨_, _, others, _, rfl, rfl, first⟩

theorem Splits.joined {previous : Option Kind} {offset : Nat} {chars after : List Char} {kind : Kind}
    {literal : Option Literal} {ts : List Token} (first : Lexeme previous after chars kind literal)
    (more : Splits (some kind) (offset + chars.length) after ts) :
    ∀ next ∈ ts.head?, Joined ⟨kind, String.ofList chars, literal, ⟨offset, chars.length⟩⟩ next := by
  intro next isNext
  constructor
  · rintro rfl
    obtain ⟨rfl, d, isFirst, digit⟩ := first.of_minus
    obtain ⟨rest, rfl⟩ := List.head?_eq_some_iff.mp isFirst
    obtain ⟨t, us, _, _, rfl, place, lexeme⟩ := more.next (not_isBlank_of_isDigit digit)
    cases isNext
    exact ⟨lexeme.kind_of_digit digit, place⟩
  · rintro rfl
    obtain ⟨rest, rfl⟩ := List.head?_eq_some_iff.mp first.of_function
    obtain ⟨t, us, _, _, rfl, place, lexeme⟩ := more.next rfl
    cases isNext
    exact ⟨lexeme.kind_of_leftParen, place⟩

theorem Splits.ended {previous : Option Kind} {offset : Nat} {text : List Char} {ts : List Token}
    (splits : Splits previous offset text ts) :
    ∃ before, ts = before ++ [endAt (offset + text.length)] ∧ ∀ t ∈ before, t.kind ≠ .eof := by
  induction splits with
  | done => exact ⟨[], rfl, by simp⟩
  | blank isBlank more ih =>
      obtain ⟨before, rfl, endFree⟩ := ih
      refine ⟨before, ?_, endFree⟩
      rw [List.length_cons, Nat.add_right_comm, Nat.add_assoc]
  | @lexeme _ offset chars after kind literal _ first more ih =>
      obtain ⟨before, rfl, endFree⟩ := ih
      refine ⟨⟨kind, String.ofList chars, literal, ⟨offset, chars.length⟩⟩ :: before, ?_,
        List.forall_mem_cons.mpr ⟨first.kind_ne_eof, endFree⟩⟩
      rw [List.length_append, Nat.add_assoc, List.cons_append]

theorem Splits.isChain {previous : Option Kind} {offset : Nat} {text : List Char} {ts : List Token}
    (splits : Splits previous offset text ts) : ts.IsChain Joined := by
  induction splits with
  | done => exact List.isChain_singleton _
  | blank isBlank more ih => exact ih
  | lexeme first more ih => exact List.isChain_cons.mpr ⟨Splits.joined first more, ih⟩

theorem Splits.carries {previous : Option Kind} {offset : Nat} {text : List Char} {ts : List Token}
    (splits : Splits previous offset text ts) :
    ∀ t ∈ ts, Carries t.kind t.lexeme.toList t.literal := by
  induction splits with
  | done => simpa [endAt] using @Carries.nothing .eof [] (by decide) (by decide)
  | blank isBlank more ih => exact ih
  | lexeme first more ih =>
      refine List.forall_mem_cons.mpr ⟨?_, ih⟩
      simpa using first.carries

/-- Every token covers its characters, counted from the start of the whole text. -/
theorem Splits.placed {previous : Option Kind} {text : List Char} {ts : List Token}
    (front : List Char) (splits : Splits previous front.length text ts) :
    ∀ t ∈ ts, t.lexeme.toList = ((front ++ text).drop t.span.offset).take t.span.length ∧
      t.span.length = t.lexeme.toList.length := by
  generalize isOffset : front.length = offset at splits
  induction splits generalizing front with
  | done => simp [endAt]
  | @blank _ _ c rest _ isBlank more ih =>
      have whole : front ++ c :: rest = (front ++ [c]) ++ rest := by simp
      rw [whole]
      exact ih _ (by simp [isOffset])
  | @lexeme _ _ chars after _ _ _ first more ih =>
      refine List.forall_mem_cons.mpr ⟨?_, ?_⟩
      · subst isOffset
        simp
      · rw [← List.append_assoc]
        exact ih _ (by simp [isOffset])

theorem splits_of_ofChars {text : List Char} {ts : List Token} (ok : ofChars text = .ok ts) :
    Splits none 0 text ts :=
  splits_of_tokensFrom (tokensFrom_of_ofChars ok)

theorem suited_of_ofChars {text : List Char} {ts : List Token} (ok : ofChars text = .ok ts) :
    Suited text ts := by
  have splits := splits_of_ofChars ok
  exact {
    ended := by simpa using splits.ended
    placed := Splits.placed [] splits
    joined := splits.isChain
    carried := splits.carries }

end JsonQuery.Token

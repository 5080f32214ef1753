import Mathlib.Data.List.TakeWhile
import JsonQuery.Proofs.Lexing
import JsonQuery.Proofs.StringLiterals

/-! # How a text is split into tokens

A lexeme is judged with the text behind it present, since that decides how long it is and, for a
name, what it stands for. Every text that has tokens is a row of lexemes with blanks between them.
-/

namespace JsonQuery.Token

open JsonQuery.Text

/-- The signs that an equals sign makes another sign of. -/
def extensible? : Char → Option (Kind × Kind)
  | '!' => some (.not, .ne)
  | '<' => some (.lt, .le)
  | '>' => some (.gt, .ge)
  | _ => none

/-- The signs that are written twice. -/
def doubled? : Char → Option Kind
  | '=' => some .eq
  | '&' => some .and
  | '|' => some .or
  | _ => none

/-- The names that are keywords. -/
def keywords : List (String × Kind) := [("true", .true), ("false", .false), ("null", .null)]

/-- What a name stands for behind a token of kind `previous` and in front of `after`. -/
inductive WordKind (previous : Option Kind) (name : String) (after : List Char) : Kind → Prop where
  | member (dotted : previous = some .dot ∨ previous = some .doubleDot) :
      WordKind previous name after .identifier
  | keyword {kind : Kind} (free : ¬(previous = some .dot ∨ previous = some .doubleDot))
      (known : (name, kind) ∈ keywords) : WordKind previous name after kind
  | function (free : ¬(previous = some .dot ∨ previous = some .doubleDot))
      (other : ∀ kind, (name, kind) ∉ keywords) (opens : after.head? = some '(') :
      WordKind previous name after .function
  | name (free : ¬(previous = some .dot ∨ previous = some .doubleDot))
      (other : ∀ kind, (name, kind) ∉ keywords) (closed : after.head? ≠ some '(')
      (apart : ¬((Function.ofName? name).isSome = true ∧
        (after.dropWhile isBlank).head? = some '(')) :
      WordKind previous name after .identifier

/-- The characters make up a token of the given kind and value, behind a token of kind `previous`
    and in front of `after`. -/
inductive Lexeme (previous : Option Kind) (after : List Char) :
    List Char → Kind → Option Literal → Prop where
  | sign {c : Char} {kind : Kind} (isSign : sign? c = some kind) :
      Lexeme previous after [c] kind none
  | dot (single : after.head? ≠ some '.') (joined : after.head?.any isBlank = false) :
      Lexeme previous after ['.'] .dot none
  | dots (joined : after.head?.any isBlank = false) : Lexeme previous after ['.', '.'] .doubleDot none
  | short {c : Char} {one two : Kind} (isSign : extensible? c = some (one, two))
      (single : after.head? ≠ some '=') : Lexeme previous after [c] one none
  | long {c : Char} {one two : Kind} (isSign : extensible? c = some (one, two)) :
      Lexeme previous after [c, '='] two none
  | doubled {c : Char} {kind : Kind} (isSign : doubled? c = some kind) :
      Lexeme previous after [c, c] kind none
  | minus {d : Char} (first : after.head? = some d) (digit : isDigit d = true) :
      Lexeme previous after ['-'] .minus none
  | string {quote : Char} {body decoded : List Char} (isQuote : quote = '"' ∨ quote = '\'')
      (spelling : Spelling quote body decoded) :
      Lexeme previous after (quote :: (body ++ [quote])) .string
        (some (.text (String.ofList decoded)))
  | number {n : Numeral} {mark : Char} {value : Number} (wf : n.WellFormed)
      (isMark : mark = 'e' ∨ mark = 'E') (isValue : n.value? = some value) :
      Lexeme previous after (n.spelled mark) .number (some (.number value))
  | word {c : Char} {more : List Char} {kind : Kind} (first : isNameFirst c = true)
      (all : ∀ d ∈ more, isNameChar d = true)
      (ends : ∀ d, after.head? = some d → isNameChar d = false)
      (isKind : WordKind previous (String.ofList (c :: more)) after kind) :
      Lexeme previous after (c :: more) kind none

/-! ## Names -/

theorem isNameChar_of_isNameFirst {c : Char} (first : isNameFirst c = true) :
    isNameChar c = true := by
  rw [isNameChar, first, Bool.true_or]

theorem head?_dropWhile {p : Char → Bool} {text : List Char} {c : Char}
    (first : (text.dropWhile p).head? = some c) : p c = false := by
  obtain ⟨rest, same⟩ := List.head?_eq_some_iff.mp first
  have stops := List.dropWhile_get_zero_not p text (by simp [same])
  simpa [same] using stops

theorem forall_notMem_keywords {name : String} :
    (∀ kind, (name, kind) ∉ keywords) ↔ name ≠ "true" ∧ name ≠ "false" ∧ name ≠ "null" := by
  constructor
  · intro other
    refine ⟨?_, ?_, ?_⟩ <;> rintro rfl
    · exact other .true (by decide)
    · exact other .false (by decide)
    · exact other .null (by decide)
  · rintro ⟨isTrue, isFalse, isNull⟩ kind
    simp [keywords, isTrue, isFalse, isNull]

theorem nameOrKeyword_eq_ok_iff {previous : Option Kind} {text : List Char} {piece : Piece} :
    nameOrKeyword previous text = .ok piece ↔
      ∃ kind, piece = .plain kind (text.takeWhile isNameChar).length ∧
        WordKind previous (String.ofList (text.takeWhile isNameChar)) (text.dropWhile isNameChar)
          kind := by
  unfold nameOrKeyword
  dsimp only
  generalize (text.takeWhile isNameChar).length = length
  generalize String.ofList (text.takeWhile isNameChar) = name
  generalize text.dropWhile isNameChar = after
  constructor
  · intro ok
    split at ok
    · next dotted =>
        cases ok
        exact ⟨_, rfl, .member dotted⟩
    next free =>
    split at ok
    · next same =>
        cases ok
        exact ⟨_, rfl, .keyword free (same ▸ by decide)⟩
    next isTrue =>
    split at ok
    · next same =>
        cases ok
        exact ⟨_, rfl, .keyword free (same ▸ by decide)⟩
    next isFalse =>
    split at ok
    · next same =>
        cases ok
        exact ⟨_, rfl, .keyword free (same ▸ by decide)⟩
    next isNull =>
    have other := forall_notMem_keywords.mpr ⟨isTrue, isFalse, isNull⟩
    split at ok
    · next opens =>
        cases ok
        exact ⟨_, rfl, .function free other opens⟩
    next closed =>
    split at ok
    · cases ok
    next apart =>
    cases ok
    exact ⟨_, rfl, .name free other closed apart⟩
  · rintro ⟨kind, rfl, isKind⟩
    cases isKind with
    | member dotted => rw [if_pos dotted]
    | keyword free known =>
        rw [if_neg free]
        simp only [keywords, List.mem_cons, Prod.mk.injEq, List.not_mem_nil, or_false] at known
        rcases known with ⟨rfl, rfl⟩ | ⟨rfl, rfl⟩ | ⟨rfl, rfl⟩ <;> rfl
    | function free other opens =>
        obtain ⟨isTrue, isFalse, isNull⟩ := forall_notMem_keywords.mp other
        rw [if_neg free, if_neg isTrue, if_neg isFalse, if_neg isNull, if_pos opens]
    | name free other closed apart =>
        obtain ⟨isTrue, isFalse, isNull⟩ := forall_notMem_keywords.mp other
        rw [if_neg free, if_neg isTrue, if_neg isFalse, if_neg isNull, if_neg closed, if_neg apart]

/-! ## Single lexemes -/

/-- The piece is that of a lexeme at the start of the text `c :: rest`. -/
def IsLexeme (previous : Option Kind) (c : Char) (rest : List Char) (piece : Piece) : Prop :=
  ∃ more after, rest = more ++ after ∧ piece.size = (c :: more).length ∧
    Lexeme previous after (c :: more) piece.kind piece.literal

section Pieces

variable {previous : Option Kind} {c : Char} {rest : List Char} {piece : Piece}

theorem isLexeme_sign {kind : Kind} (isSign : sign? c = some kind)
    (ok : Except.ok (.plain kind 1) = Except.ok (ε := Misread) piece) :
    IsLexeme previous c rest piece := by
  cases ok
  exact ⟨[], rest, rfl, rfl, .sign isSign⟩

theorem isLexeme_oneOrTwo {one two : Kind} (isSign : extensible? c = some (one, two))
    (ok : Except.ok (oneOrTwo '=' one two rest) = Except.ok (ε := Misread) piece) :
    IsLexeme previous c rest piece := by
  unfold oneOrTwo at ok
  split at ok
  · next equals =>
      cases ok
      obtain ⟨after, rfl⟩ := List.head?_eq_some_iff.mp equals
      exact ⟨['='], after, rfl, rfl, .long isSign⟩
  · next single =>
      cases ok
      exact ⟨[], rest, rfl, rfl, .short isSign single⟩

theorem isLexeme_exactlyTwo {kind : Kind} (isSign : doubled? c = some kind)
    (ok : exactlyTwo c c kind rest = .ok piece) : IsLexeme previous c rest piece := by
  unfold exactlyTwo at ok
  split at ok
  · next again =>
      cases ok
      obtain ⟨after, rfl⟩ := List.head?_eq_some_iff.mp again
      exact ⟨[c], after, rfl, rfl, .doubled isSign⟩
  · cases ok

theorem isLexeme_dots (ok : dots rest = .ok piece) : IsLexeme previous '.' rest piece := by
  unfold dots oneOrTwo at ok
  by_cases again : rest.head? = some '.'
  · obtain ⟨after, rfl⟩ := List.head?_eq_some_iff.mp again
    simp only [again, if_true, Piece.plain, Nat.add_one_sub_one, List.drop_succ_cons,
      List.drop_zero] at ok
    split at ok
    · cases ok
    next joined =>
    cases ok
    exact ⟨['.'], after, rfl, rfl, .dots (Bool.eq_false_iff.mpr joined)⟩
  · simp only [if_neg again, Piece.plain, Nat.sub_self, List.drop_zero] at ok
    split at ok
    · cases ok
    next joined =>
    cases ok
    exact ⟨[], rest, rfl, rfl, .dot again (Bool.eq_false_iff.mpr joined)⟩

theorem isLexeme_minusSign (ok : minusSign rest = .ok piece) : IsLexeme previous '-' rest piece := by
  unfold minusSign at ok
  split at ok
  · cases ok
  next d after =>
  split at ok
  · next digit =>
      cases ok
      exact ⟨[], d :: after, rfl, rfl, .minus rfl digit⟩
  · split at ok <;> cases ok

theorem isLexeme_stringLiteral (isQuote : c = '"' ∨ c = '\'')
    (ok : stringLiteral c rest = .ok piece) : IsLexeme previous c rest piece := by
  obtain ⟨body, decoded, after, rfl, spelling, rfl⟩ := (stringLiteral_eq_ok_iff isQuote).mp ok
  exact ⟨body ++ [c], after, by simp, by simp, .string isQuote spelling⟩

theorem isLexeme_numeral (digit : isDigit c = true) (ok : numeral (c :: rest) = .ok piece) :
    IsLexeme previous c rest piece := by
  obtain ⟨n, mark, number, after, wf, isMark, isValue, same, rfl⟩ := exists_spelled digit ok
  have lexeme : Lexeme previous after (n.spelled mark) .number (some (.number number)) :=
    .number wf isMark isValue
  cases spelled : n.spelled mark with
  | nil =>
      obtain ⟨nonempty, _⟩ := List.append_eq_nil_iff.mp spelled
      exact absurd nonempty wf.nonempty
  | cons d more =>
      rw [spelled] at same lexeme
      obtain ⟨rfl, rfl⟩ := List.cons.inj same
      exact ⟨more, after, rfl, rfl, lexeme⟩

theorem isLexeme_nameOrKeyword (first : isNameFirst c = true)
    (ok : nameOrKeyword previous (c :: rest) = .ok piece) : IsLexeme previous c rest piece := by
  obtain ⟨kind, rfl, isKind⟩ := nameOrKeyword_eq_ok_iff.mp ok
  have isChar := isNameChar_of_isNameFirst first
  rw [List.takeWhile_cons_of_pos isChar, List.dropWhile_cons_of_pos isChar] at isKind
  refine ⟨rest.takeWhile isNameChar, rest.dropWhile isNameChar,
    List.takeWhile_append_dropWhile.symm, ?_, .word first ?_ ?_ isKind⟩
  · rw [List.takeWhile_cons_of_pos isChar]
    rfl
  · intro d member
    exact List.mem_takeWhile_imp member
  · intro d isHead
    exact head?_dropWhile isHead

end Pieces

theorem isLexeme_of_pieceAt {previous : Option Kind} {c : Char} {rest : List Char} {piece : Piece}
    (ok : pieceAt previous c rest = .ok piece) : IsLexeme previous c rest piece := by
  unfold pieceAt at ok
  split at ok
  case h_11 => exact isLexeme_dots ok
  case h_12 | h_13 | h_14 => exact isLexeme_oneOrTwo rfl ok
  case h_15 | h_16 | h_17 => exact isLexeme_exactlyTwo rfl ok
  case h_18 => exact isLexeme_minusSign ok
  case h_19 => exact isLexeme_stringLiteral (.inl rfl) ok
  case h_20 => exact isLexeme_stringLiteral (.inr rfl) ok
  case h_21 =>
    split at ok
    · next digit => exact isLexeme_numeral digit ok
    · split at ok
      · next first => exact isLexeme_nameOrKeyword first ok
      · cases ok
  all_goals exact isLexeme_sign rfl ok

/-! ## Rows of lexemes -/

/-- A text that begins at `offset`, behind a token of kind `previous`, and its tokens. -/
inductive Splits : Option Kind → Nat → List Char → List Token → Prop where
  | done {previous : Option Kind} {offset : Nat} : Splits previous offset [] [endAt offset]
  | blank {previous : Option Kind} {offset : Nat} {c : Char} {rest : List Char} {ts : List Token}
      (isBlank : isBlank c = true) (more : Splits previous (offset + 1) rest ts) :
      Splits previous offset (c :: rest) ts
  | lexeme {previous : Option Kind} {offset : Nat} {chars after : List Char} {kind : Kind}
      {literal : Option Literal} {ts : List Token}
      (first : Lexeme previous after chars kind literal)
      (more : Splits (some kind) (offset + chars.length) after ts) :
      Splits previous offset (chars ++ after)
        (⟨kind, String.ofList chars, literal, ⟨offset, chars.length⟩⟩ :: ts)

theorem splits_of_tokensFrom {previous : Option Kind} {offset : Nat} {text : List Char}
    {ts : List Token} (ok : tokensFrom previous offset text = .ok ts) :
    Splits previous offset text ts := by
  induction length : text.length using Nat.strong_induction_on
    generalizing previous offset text ts with
  | _ size ih =>
  subst length
  cases text with
  | nil =>
      rw [tokensFrom] at ok
      cases ok
      exact .done
  | cons c rest =>
      by_cases isBlank : isBlank c = true
      · rw [tokensFrom_blank isBlank] at ok
        exact .blank isBlank (ih _ (by simp) ok rfl)
      · rw [tokensFrom, if_neg isBlank] at ok
        split at ok
        · cases ok
        next piece read =>
        split at ok
        · cases ok
        next us isMore =>
        cases ok
        obtain ⟨more, after, rfl, size, lexeme⟩ := isLexeme_of_pieceAt read
        have behind : (more ++ after).drop (piece.size - 1) = after := by
          rw [size, List.length_cons, Nat.add_sub_cancel, List.drop_left]
        have front : (more ++ after).take (piece.size - 1) = more := by
          rw [size, List.length_cons, Nat.add_sub_cancel, List.take_left]
        rw [behind, size] at isMore
        rw [ofPiece, front, size, ← List.cons_append]
        exact .lexeme lexeme (ih _ (by simp) isMore rfl)

theorem tokensFrom_of_ofChars {text : List Char} {ts : List Token} (ok : ofChars text = .ok ts) :
    tokensFrom none 0 text = .ok ts := by
  unfold ofChars at ok
  split at ok
  · cases ok
  split at ok
  · cases ok
  exact ok

end JsonQuery.Token

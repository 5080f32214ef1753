import JsonQuery.Proofs.Respacing

/-! # String literals as tokens

Wherever the lexer comes to a quote, it goes by the grammar of string literals alone: a literal is
taken up to its closing quote, and if there is none the whole text is refused. The code of an escape
is always that of a character. What the writer of quoted names makes is such a literal, and the lexer
reads the name back from it.
-/

namespace JsonQuery.Token

open JsonQuery.Text

/-- The lexer of `source` comes to `text`, which stands `offset` characters behind the start and
    follows a token of kind `previous`. -/
inductive Arrives (source : List Char) : Option Kind → Nat → List Char → Prop where
  | start : Arrives source none 0 source
  | blank {previous : Option Kind} {offset : Nat} {c : Char} {rest : List Char}
      (before : Arrives source previous offset (c :: rest)) (blank : isBlank c = true) :
      Arrives source previous (offset + 1) rest
  | token {previous : Option Kind} {offset : Nat} {c : Char} {rest : List Char} {piece : Piece}
      (before : Arrives source previous offset (c :: rest)) (notBlank : isBlank c = false)
      (read : pieceAt previous c rest = .ok piece) :
      Arrives source (some piece.kind) (offset + piece.size) (rest.drop (piece.size - 1))

/-- The code that an escape gives behind `\u`: a code unit that is no surrogate, or the number that
    a high and a low surrogate make together. -/
inductive EscapeCode : List Char → Nat → Prop where
  | unit {digits : List Char} {unit : Nat} (isUnit : IsCodeUnit digits unit)
      (notLow : isLowSurrogate unit = false) (notHigh : isHighSurrogate unit = false) :
      EscapeCode digits unit
  | pair {first second : List Char} {high low : Nat} (isFirst : IsCodeUnit first high)
      (isHigh : isHighSurrogate high = true) (isSecond : IsCodeUnit second low)
      (isLow : isLowSurrogate low = true) :
      EscapeCode (first ++ '\\' :: 'u' :: second)
        ((high - 0xD800) * 0x400 + (low - 0xDC00) + 0x10000)

/-- A row of items between two quotes at the start of a text, the first of which has been read. -/
def OpensString (quote : Char) (text : List Char) : Prop :=
  ∃ body decoded rest, text = body ++ quote :: rest ∧ Spelling quote body decoded

/-! ## Codes of escapes -/

theorem isHighSurrogate_iff {unit : Nat} :
    isHighSurrogate unit = true ↔ 0xD800 ≤ unit ∧ unit < 0xDC00 := by
  simp only [isHighSurrogate, Bool.and_eq_true, decide_eq_true_eq]

theorem isLowSurrogate_iff {unit : Nat} :
    isLowSurrogate unit = true ↔ 0xDC00 ≤ unit ∧ unit < 0xE000 := by
  simp only [isLowSurrogate, Bool.and_eq_true, decide_eq_true_eq]

theorem hexDigit?_lt {c : Char} {value : Nat} (isDigit : hexDigit? c = some value) :
    value < 16 := by
  unfold hexDigit? at isDigit
  simp only [Char.le_def, UInt32.le_iff_toNat_le] at isDigit
  have code : c.toNat = c.val.toNat := rfl
  split at isDigit
  · next decimal =>
      cases isDigit
      have : c.val.toNat ≤ 57 := decimal.2
      omega
  split at isDigit
  · next small =>
      cases isDigit
      have : c.val.toNat ≤ 102 := small.2
      omega
  split at isDigit
  · next capital =>
      cases isDigit
      have : c.val.toNat ≤ 70 := capital.2
      omega
  · cases isDigit

theorem hexValue_lt {digits : List Char} {start value : Nat}
    (isValue : digits.foldlM (fun value c => (hexDigit? c).map (value * 16 + ·)) start =
      some value) : value < (start + 1) * 16 ^ digits.length := by
  induction digits generalizing start with
  | nil =>
      cases isValue
      simp
  | cons c rest ih =>
      rw [List.foldlM_cons] at isValue
      obtain ⟨next, isNext, isRest⟩ := Option.bind_eq_some_iff.mp isValue
      obtain ⟨digit, isDigit, rfl⟩ := Option.map_eq_some_iff.mp isNext
      have small := hexDigit?_lt isDigit
      calc value < (start * 16 + digit + 1) * 16 ^ rest.length := ih isRest
        _ ≤ ((start + 1) * 16) * 16 ^ rest.length := Nat.mul_le_mul_right _ (by omega)
        _ = (start + 1) * 16 ^ (c :: rest).length := by
            rw [List.length_cons, Nat.pow_succ', Nat.mul_assoc]

theorem IsCodeUnit.lt {digits : List Char} {unit : Nat} (isUnit : IsCodeUnit digits unit) :
    unit < 0x10000 := by
  have bound := hexValue_lt isUnit.value
  rw [isUnit.four] at bound
  exact bound

theorem toNat_ofNat_of_isValidChar {code : Nat} (valid : code.isValidChar) :
    (Char.ofNat code).toNat = code := by
  rw [Char.ofNat, dif_pos valid]
  rfl

theorem joinSurrogates_eq (high low : Nat) : joinSurrogates high low =
    Char.ofNat ((high - 0xD800) * 0x400 + (low - 0xDC00) + 0x10000) := by
  rw [joinSurrogates, Nat.add_assoc, Nat.add_comm 0x10000]

/-- No escape gives a surrogate or a code beyond the last character. -/
theorem EscapeCode.isValidChar {digits : List Char} {code : Nat} (isCode : EscapeCode digits code) :
    code.isValidChar := by
  cases isCode with
  | unit isUnit notLow notHigh =>
      have small := isUnit.lt
      have outside := Bool.eq_false_iff.mp notHigh
      have outside' := Bool.eq_false_iff.mp notLow
      rw [ne_eq, isHighSurrogate_iff] at outside
      rw [ne_eq, isLowSurrogate_iff] at outside'
      unfold Nat.isValidChar
      omega
  | pair isFirst isHigh isSecond isLow =>
      obtain ⟨_, highBound⟩ := isHighSurrogate_iff.mp isHigh
      obtain ⟨_, lowBound⟩ := isLowSurrogate_iff.mp isLow
      right
      constructor <;> omega

theorem EscapeCode.codeEscape {digits : List Char} {code : Nat} (isCode : EscapeCode digits code) :
    CodeEscape digits (Char.ofNat code) := by
  cases isCode with
  | unit isUnit notLow notHigh => exact .unit isUnit notLow notHigh
  | @pair first second high low isFirst isHigh isSecond isLow =>
      rw [← joinSurrogates_eq]
      exact .pair isFirst isHigh isSecond isLow

theorem CodeEscape.escapeCode {digits : List Char} {c : Char} (isCode : CodeEscape digits c) :
    EscapeCode digits c.toNat := by
  cases isCode with
  | unit isUnit notLow notHigh =>
      have code := EscapeCode.unit isUnit notLow notHigh
      rwa [toNat_ofNat_of_isValidChar code.isValidChar]
  | @pair first second high low isFirst isHigh isSecond isLow =>
      have code := EscapeCode.pair isFirst isHigh isSecond isLow
      rwa [joinSurrogates_eq, toNat_ofNat_of_isValidChar code.isValidChar]

/-! ## Faults of strings -/

theorem kind_unicodeEscape {text : List Char} {fault : Fault} {length : Nat}
    (error : unicodeEscape text = .error (fault, length)) : fault.kind = .lexical := by
  unfold unicodeEscape at error
  split at error
  · cases error
    rfl
  split at error
  · cases error
    rfl
  split at error
  · split at error
    · split at error
      · cases error
        rfl
      split at error
      · cases error
      · cases error
        rfl
    · cases error
      rfl
  · cases error

theorem kind_escapeIn {quote escaped : Char} {text : List Char} {fault : Fault} {length : Nat}
    (error : escapeIn quote escaped text = .error (fault, length)) : fault.kind = .lexical := by
  unfold escapeIn at error
  split at error
  case h_8 => exact kind_unicodeEscape error
  case h_9 =>
    split at error
    · cases error
    split at error
    · cases error
      rfl
    · cases error
      rfl
  all_goals cases error

theorem kind_stringBody {quote : Char} {offset : Nat} {done text : List Char} {m : Misread}
    (error : stringBody quote offset done text = .error m) : m.fault.kind = .lexical := by
  fun_induction stringBody quote offset done text with
  | case1 | case3 | case6 =>
      cases error
      rfl
  | case2 => cases error
  | case4 offset done escaped rest fault length isError =>
      cases error
      exact kind_escapeIn isError
  | case5 _ _ _ _ _ _ _ _ ih | case7 _ _ _ _ _ _ _ ih => exact ih error

/-! ## Places of the lexer -/

section Places

variable {source text : List Char} {previous : Option Kind} {offset : Nat}

/-- A fault that is found somewhere is the fault of the whole text. -/
theorem Arrives.error (arrives : Arrives source previous offset text) {m : Misread}
    (error : tokensFrom previous offset text = .error m) : tokensFrom none 0 source = .error m := by
  induction arrives with
  | start => exact error
  | blank before blank ih => exact ih (by rw [tokensFrom_blank blank, error])
  | token before notBlank read ih =>
      apply ih
      rw [tokensFrom_piece notBlank read, error]
      rfl

theorem Arrives.suffix (arrives : Arrives source previous offset text) {ts : List Token}
    (ok : tokensFrom none 0 source = .ok ts) :
    ∃ us, us <:+ ts ∧ tokensFrom previous offset text = .ok us := by
  induction arrives with
  | start => exact ⟨ts, List.suffix_refl ts, ok⟩
  | blank before blank ih =>
      obtain ⟨us, left, read⟩ := ih
      exact ⟨us, left, by rw [← tokensFrom_blank blank, read]⟩
  | token before notBlank read ih =>
      obtain ⟨us, left, isRead⟩ := ih
      rw [tokensFrom_piece notBlank read] at isRead
      generalize tokensFrom _ _ _ = more at isRead ⊢
      cases more with
      | error m => cases isRead
      | ok more =>
          cases isRead
          exact ⟨more, (List.suffix_cons _ _).trans left, rfl⟩

end Places

/-- A text whose tokens cannot be read for a fault of its characters is refused for such a fault. -/
theorem exists_lexical {source : String} {m : Misread}
    (error : tokensFrom none 0 source.toList = .error m) (kind : m.fault.kind = .lexical) :
    ∃ d, ofQuery source = .error d ∧ d.kind = .lexical := by
  unfold ofQuery ofChars
  split
  · exact ⟨_, rfl, rfl⟩
  split
  · exact ⟨_, rfl, rfl⟩
  · rw [error]
    exact ⟨_, rfl, kind⟩

/-! ## Strings -/

section Strings

variable {quote : Char} (isQuote : quote = '"' ∨ quote = '\'')
include isQuote

theorem pieceAt_quote (previous : Option Kind) (text : List Char) :
    pieceAt previous quote text = stringLiteral quote text := by
  rcases isQuote with rfl | rfl <;> rfl

theorem not_isBlank_quote : isBlank quote = false := by
  rcases isQuote with rfl | rfl <;> decide

/-- A text begins with one row of items at most, and the row stands for one text. -/
theorem spelling_unique {body body' decoded decoded' rest rest' : List Char}
    (same : body ++ quote :: rest = body' ++ quote :: rest')
    (spelling : Spelling quote body decoded) (spelling' : Spelling quote body' decoded') :
    body = body' ∧ decoded = decoded' := by
  have read := (stringLiteral_eq_ok_iff isQuote).mpr ⟨body, decoded, rest, rfl, spelling, rfl⟩
  have read' := (stringLiteral_eq_ok_iff isQuote).mpr ⟨body', decoded', rest', same, spelling', rfl⟩
  obtain ⟨_, size, text⟩ := Piece.mk.inj (Except.ok.inj (read.symm.trans read'))
  refine ⟨(List.append_inj same (Nat.add_right_cancel size)).1, ?_⟩
  exact String.ofList_injective (Literal.text.inj (Option.some.inj text))

end Strings

/-- Strings are read by their grammar. Where the lexer comes to a quote, it reads a token exactly if
    a row of items with a closing quote stands behind it; there is only one such row, and the token
    is made of its characters and of the text that it stands for. Otherwise the whole text is
    refused for its characters. The code of every escape is that of a character. -/
theorem strings_are_spellings {source : String} {previous : Option Kind} {offset : Nat}
    {quote : Char} {text : List Char} (isQuote : quote = '"' ∨ quote = '\'')
    (arrives : Arrives source.toList previous offset (quote :: text)) :
    ((∃ piece, pieceAt previous quote text = .ok piece) ↔ OpensString quote text) ∧
      (∀ body decoded rest, text = body ++ quote :: rest → Spelling quote body decoded →
        pieceAt previous quote text =
            .ok ⟨.string, body.length + 2, some (.text (String.ofList decoded))⟩ ∧
          (∀ body' decoded' rest', text = body' ++ quote :: rest' → Spelling quote body' decoded' →
            body = body' ∧ decoded = decoded') ∧
          ∀ ts, ofQuery source = .ok ts →
            ⟨.string, String.ofList (quote :: (body ++ [quote])),
              some (.text (String.ofList decoded)), ⟨offset, body.length + 2⟩⟩ ∈ ts) ∧
      (¬OpensString quote text → ∃ d, ofQuery source = .error d ∧ d.kind = .lexical) ∧
      (∀ digits c, CodeEscape digits c → EscapeCode digits c.toNat) ∧
      ∀ digits code, EscapeCode digits code →
        code.isValidChar ∧ CodeEscape digits (Char.ofNat code) := by
  have dispatch := pieceAt_quote isQuote previous text
  have opens : (∃ piece, pieceAt previous quote text = .ok piece) ↔ OpensString quote text := by
    rw [dispatch]
    constructor
    · rintro ⟨piece, read⟩
      obtain ⟨body, decoded, rest, same, spelling, _⟩ := (stringLiteral_eq_ok_iff isQuote).mp read
      exact ⟨body, decoded, rest, same, spelling⟩
    · rintro ⟨body, decoded, rest, same, spelling⟩
      exact ⟨_, (stringLiteral_eq_ok_iff isQuote).mpr ⟨body, decoded, rest, same, spelling, rfl⟩⟩
  refine ⟨opens, ?_, ?_, fun _ _ isCode => isCode.escapeCode,
    fun _ _ isCode => ⟨isCode.isValidChar, isCode.codeEscape⟩⟩
  · rintro body decoded rest rfl spelling
    have read : pieceAt previous quote (body ++ quote :: rest) =
        .ok ⟨.string, body.length + 2, some (.text (String.ofList decoded))⟩ := by
      rw [dispatch]
      exact (stringLiteral_eq_ok_iff isQuote).mpr ⟨body, decoded, rest, rfl, spelling, rfl⟩
    refine ⟨read, fun _ _ _ same spelling' => spelling_unique isQuote same spelling spelling', ?_⟩
    intro ts ok
    obtain ⟨us, left, isRead⟩ :=
      arrives.suffix (tokensFrom_of_ofChars (ofQuery_eq_ok_iff.mp ok))
    rw [tokensFrom_piece (not_isBlank_quote isQuote) read] at isRead
    generalize tokensFrom _ _ _ = more at isRead
    cases more with
    | error m => cases isRead
    | ok more =>
        cases isRead
        apply left.subset
        have front : (body ++ quote :: rest).take (body.length + 1) = body ++ [quote] := by
          simp [List.take_append]
        simp [ofPiece, front]
  · intro closed
    cases read : pieceAt previous quote text with
    | ok piece => exact absurd (opens.mp ⟨piece, read⟩) closed
    | error m =>
        have error : tokensFrom previous offset (quote :: text) = .error (m.shift offset) := by
          rw [tokensFrom, if_neg (by simp [not_isBlank_quote isQuote]), read]
        rw [dispatch] at read
        have lexical : m.fault.kind = .lexical := kind_stringBody read
        exact exists_lexical (arrives.error error) lexical

/-- A letter and a pair of surrogates, behind a bracket and a blank. -/
theorem strings_are_spellings_pair :
    Arrives "$[ 'a\\ud83d\\uDE00']".toList (some .leftBracket) 3
        ('\'' :: "a\\ud83d\\uDE00']".toList) ∧
      pieceAt (some .leftBracket) '\'' "a\\ud83d\\uDE00']".toList =
        .ok ⟨.string, 15, some (.text "a😀")⟩ := by
  have dollar : Arrives "$[ 'a\\ud83d\\uDE00']".toList (some .root) 1
      "[ 'a\\ud83d\\uDE00']".toList :=
    .token .start rfl (rfl : pieceAt none '$' _ = .ok (.plain .root 1))
  have bracket : Arrives "$[ 'a\\ud83d\\uDE00']".toList (some .leftBracket) 2
      " 'a\\ud83d\\uDE00']".toList :=
    .token dollar rfl (rfl : pieceAt (some .root) '[' _ = .ok (.plain .leftBracket 1))
  have arrives : Arrives "$[ 'a\\ud83d\\uDE00']".toList (some .leftBracket) 3
      ('\'' :: "a\\ud83d\\uDE00']".toList) := .blank bracket rfl
  have letter : Item '\'' ['a'] 'a' := .plain (by decide) (by decide) (by decide)
  have high : IsCodeUnit "d83d".toList 0xD83D := ⟨rfl, by decide⟩
  have low : IsCodeUnit "DE00".toList 0xDE00 := ⟨rfl, by decide⟩
  have smile : joinSurrogates 0xD83D 0xDE00 = '😀' := by decide
  have pair : Item '\'' "\\ud83d\\uDE00".toList '😀' := smile ▸ .code (.pair high rfl low rfl)
  have spelling := Spelling.cons letter (.cons pair .nil)
  exact ⟨arrives, ((strings_are_spellings (.inr rfl) arrives).2.1 _ _ [']'] rfl spelling).1⟩

/-! ## Quoted names -/

theorem codeEscape_hexText4 {c : Char} (control : c < ' ') : CodeEscape (hexText4 c) c := by
  obtain ⟨read, length⟩ := unicodeEscape_hexText4 control []
  obtain ⟨digits, rest, same, four, isCode⟩ := unicodeEscape_eq_ok_iff.mp read
  rwa [(List.append_inj same (length.trans four.symm)).1]

theorem not_control_of_all {text : List Char} {d : Char}
    (all : text.all (fun c => !decide (c < ' ')) = true) (member : d ∈ text) : ¬d < ' ' := by
  simpa using List.all_eq_true.mp all d member

theorem not_control_of_mem_hexText4 {c d : Char} (control : c < ' ') (member : d ∈ hexText4 c) :
    ¬d < ' ' := by
  obtain ⟨code, small, rfl⟩ := exists_code_of_control control
  refine not_control_of_all ?_ member
  clear control member
  interval_cases code <;> rfl

theorem item_quotedChar (c : Char) : Item '\'' (quotedChar c) c := by
  unfold quotedChar
  split
  case h_6 => exact .quote
  case h_8 notQuote notEscape =>
    split
    · next control => exact .code (codeEscape_hexText4 control)
    · next control => exact .plain notQuote notEscape control
  all_goals exact .letter (by decide)

theorem spelling_quoted (name : List Char) : Spelling '\'' (name.flatMap quotedChar) name := by
  induction name with
  | nil => exact .nil
  | cons c name ih => exact .cons (item_quotedChar c) ih

/-- Control characters are written as escapes, which hold none themselves. -/
theorem not_control_of_mem_quotedChar {c d : Char} (member : d ∈ quotedChar c) : ¬d < ' ' := by
  unfold quotedChar at member
  split at member
  case h_8 =>
    split at member
    · next control =>
        simp only [List.mem_cons] at member
        rcases member with rfl | rfl | digit
        · decide
        · decide
        · exact not_control_of_mem_hexText4 control digit
    · next plain =>
        obtain rfl := List.mem_singleton.mp member
        exact plain
  all_goals exact not_control_of_all rfl member

theorem not_control_of_mem_quoted {name : String} {c : Char} (member : c ∈ (quoted name).toList) :
    ¬c < ' ' := by
  rw [quoted, String.toList_ofList, quotedChars] at member
  simp only [List.mem_cons, List.mem_append, List.mem_flatMap, List.not_mem_nil, or_false] at member
  rcases member with rfl | ⟨d, -, inside⟩ | rfl
  · decide
  · exact not_control_of_mem_quotedChar inside
  · decide

theorem lexeme_quoted (name : String) (previous : Option Kind) (after : List Char) :
    Lexeme previous after (quoted name).toList .string (some (.text name)) := by
  have lexeme : Lexeme previous after _ .string _ :=
    .string (.inr rfl) (spelling_quoted name.toList)
  simpa [quoted, quotedChars] using lexeme

theorem tokensFrom_quoted (name : String) (previous : Option Kind) (offset : Nat)
    (rest : List Char) :
    tokensFrom previous offset ((quoted name).toList ++ rest) =
      (tokensFrom (some .string) (offset + (quoted name).length) rest).map
        (⟨.string, quoted name, some (.text name), ⟨offset, (quoted name).length⟩⟩ :: ·) := by
  rw [(lexeme_quoted name previous rest).tokensFrom_append nofun, String.ofList_toList,
    String.length_toList]

/-- The lexer undoes what quoting does. A quoted name is one string with that name as its value and
    nothing else, and no control character stands in it. Whatever stands behind it, the string ends
    at the same quote; so a quoted name is the beginning of no other one. -/
theorem quoted_read_back (name : String) :
    ofQuery (quoted name) =
        .ok [⟨.string, quoted name, some (.text name), ⟨0, (quoted name).length⟩⟩,
          endAt (quoted name).length] ∧
      (∀ c ∈ (quoted name).toList, ¬c < ' ') ∧
      (∀ previous rest, ∃ body, (quoted name).toList ++ rest = '\'' :: body ∧
        pieceAt previous '\'' body =
          .ok ⟨.string, (quoted name).length, some (.text name)⟩) ∧
      (∀ previous offset rest,
        tokensFrom previous offset ((quoted name).toList ++ rest) =
          (tokensFrom (some .string) (offset + (quoted name).length) rest).map
            (⟨.string, quoted name, some (.text name), ⟨offset, (quoted name).length⟩⟩ :: ·)) ∧
      (∀ other, quoted name = quoted other → name = other) ∧
      ∀ other rest rest', (quoted name).toList ++ rest = (quoted other).toList ++ rest' →
        name = other ∧ rest = rest' := by
  have apart : ∀ other rest rest', (quoted name).toList ++ rest = (quoted other).toList ++ rest' →
      name = other ∧ rest = rest' := by
    intro other rest rest' same
    have chars := same
    rw [quoted, quoted, String.toList_ofList, String.toList_ofList] at chars
    obtain rfl := String.toList_injective (quotedChars_append_inj chars)
    exact ⟨rfl, List.append_cancel_left same⟩
  refine ⟨?_, fun c => not_control_of_mem_quoted, ?_, tokensFrom_quoted name, ?_, apart⟩
  · have lexeme := lexeme_quoted name none []
    have read := tokensFrom_quoted name none 0 []
    rw [List.append_nil, tokensFrom_nil, Nat.zero_add] at read
    rw [ofQuery_eq_ok_iff, ofChars_eq_tokensFrom (fun _ first => lexeme.edges (.inl first))
      fun _ last => lexeme.edges (.inr last), read]
    rfl
  · intro previous rest
    refine ⟨(quotedChars name.toList).tail ++ rest, ?_, ?_⟩
    · rw [quoted, String.toList_ofList]
      rfl
    · rw [pieceAt_quote (.inr rfl), stringLiteral_quotedChars, String.ofList_toList, quoted,
        String.length_ofList]
  · intro other same
    exact (apart other [] [] (by rw [same])).1

/-- A quote, a backslash and a control character that has no letter, in front of another quote. -/
theorem quoted_read_back_escaped :
    ofQuery "'it\\'s\\\\\\u0001'" =
        .ok [⟨.string, "'it\\'s\\\\\\u0001'", some (.text "it's\\\x01"), ⟨0, 15⟩⟩, endAt 15] ∧
      tokensFrom none 0 "'it\\'s\\\\\\u0001'''".toList =
        .ok [⟨.string, "'it\\'s\\\\\\u0001'", some (.text "it's\\\x01"), ⟨0, 15⟩⟩,
          ⟨.string, "''", some (.text ""), ⟨15, 2⟩⟩, endAt 17] := by
  have same : quoted "it's\\\x01" = "'it\\'s\\\\\\u0001'" := by decide +kernel
  have empty : quoted "" = "''" := by decide +kernel
  obtain ⟨alone, _, _, before, _, _⟩ := quoted_read_back "it's\\\x01"
  obtain ⟨_, _, _, behind, _, _⟩ := quoted_read_back ""
  rw [same] at alone before
  rw [empty] at behind
  refine ⟨alone, (before none 0 "''".toList).trans ?_⟩
  have rest := behind (some .string) 15 []
  rw [List.append_nil, tokensFrom_nil] at rest
  have length : 0 + "'it\\'s\\\\\\u0001'".length = 15 := by decide +kernel
  rw [length, rest]
  rfl

end JsonQuery.Token

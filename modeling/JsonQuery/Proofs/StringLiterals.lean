import Mathlib.Data.List.TakeWhile
import Mathlib.Tactic
import JsonQuery.Proofs.QuotedText

/-! # String literals

Between its quotes a string literal is a row of items, each of which stands for one character: a
character as it is, a letter behind a backslash, or the code of a character, which takes two escapes
where it is beyond sixteen bits. The reader accepts such rows and nothing else, and whatever stands
behind the closing quote does not matter to it.
-/

namespace JsonQuery.Token

open JsonQuery.Text

/-- Four hexadecimal digits and their value. -/
structure IsCodeUnit (digits : List Char) (unit : Nat) : Prop where
  four : digits.length = 4
  value : hexValue? digits = some unit

/-- The letters that stand for a character behind a backslash. -/
def escapes : List (Char × Char) :=
  [('b', '\x08'), ('f', '\x0c'), ('n', '\n'), ('r', '\r'), ('t', '\t'), ('/', '/'), ('\\', '\\')]

/-- What stands behind `\u` and the character that it stands for: one code unit that is no
    surrogate, or a pair of surrogates with a second `\u` between them. -/
inductive CodeEscape : List Char → Char → Prop where
  | unit {digits : List Char} {unit : Nat} (isUnit : IsCodeUnit digits unit)
      (notLow : isLowSurrogate unit = false) (notHigh : isHighSurrogate unit = false) :
      CodeEscape digits (Char.ofNat unit)
  | pair {first second : List Char} {high low : Nat} (isFirst : IsCodeUnit first high)
      (isHigh : isHighSurrogate high = true) (isSecond : IsCodeUnit second low)
      (isLow : isLowSurrogate low = true) :
      CodeEscape (first ++ '\\' :: 'u' :: second) (joinSurrogates high low)

/-- An item of a literal between `quote`s and the character that it stands for. -/
inductive Item (quote : Char) : List Char → Char → Prop where
  | plain {c : Char} (notQuote : c ≠ quote) (notEscape : c ≠ '\\') (notControl : ¬c < ' ') :
      Item quote [c] c
  | letter {letter c : Char} (known : (letter, c) ∈ escapes) : Item quote ['\\', letter] c
  | quote : Item quote ['\\', quote] quote
  | code {digits : List Char} {c : Char} (isCode : CodeEscape digits c) :
      Item quote ('\\' :: 'u' :: digits) c

/-- The items between two quotes and the characters that they stand for. -/
inductive Spelling (quote : Char) : List Char → List Char → Prop where
  | nil : Spelling quote [] []
  | cons {item text decoded : List Char} {c : Char} (first : Item quote item c)
      (rest : Spelling quote text decoded) : Spelling quote (item ++ text) (c :: decoded)

/-! ## Code units -/

theorem exists_hexValue {digits : List Char} (start : Nat)
    (all : ∀ c ∈ digits, (hexDigit? c).isSome = true) :
    ∃ value, digits.foldlM (fun value c => (hexDigit? c).map (value * 16 + ·)) start =
      some value := by
  induction digits generalizing start with
  | nil => exact ⟨start, rfl⟩
  | cons c rest ih =>
      obtain ⟨digit, isDigit⟩ := Option.isSome_iff_exists.mp (all c List.mem_cons_self)
      obtain ⟨value, isValue⟩ :=
        ih (start * 16 + digit) fun d member => all d (List.mem_cons_of_mem c member)
      exact ⟨value, by simpa [List.foldlM_cons, isDigit] using isValue⟩

theorem all_hexDigit {digits : List Char} {start value : Nat}
    (isValue : digits.foldlM (fun value c => (hexDigit? c).map (value * 16 + ·)) start =
      some value) :
    ∀ c ∈ digits, (hexDigit? c).isSome = true := by
  induction digits generalizing start with
  | nil => simp
  | cons c rest ih =>
      rw [List.foldlM_cons] at isValue
      obtain ⟨next, isNext, isRest⟩ := Option.bind_eq_some_iff.mp isValue
      obtain ⟨digit, isDigit, _⟩ := Option.map_eq_some_iff.mp isNext
      exact List.forall_mem_cons.mpr ⟨by simp [isDigit], ih isRest⟩

theorem codeUnit_eq_ok_iff {text : List Char} {unit : Nat} :
    codeUnit text = .ok unit ↔ ∃ digits rest, text = digits ++ rest ∧ IsCodeUnit digits unit := by
  constructor
  · intro ok
    simp only [codeUnit] at ok
    split at ok
    · next four =>
        cases ok
        have whole : (text.take 4).takeWhile (fun c => (hexDigit? c).isSome) = text.take 4 := by
          refine (List.takeWhile_prefix _).eq_of_length_le ?_
          rw [four]
          exact List.length_take_le 4 text
        have all := List.takeWhile_eq_self_iff.mp whole
        obtain ⟨value, isValue⟩ := exists_hexValue 0 all
        rw [whole] at four ⊢
        refine ⟨text.take 4, text.drop 4, (List.take_append_drop 4 text).symm, four, ?_⟩
        rw [show hexValue? (text.take 4) = some value from isValue, Option.getD_some]
    · cases ok
  · rintro ⟨digits, rest, rfl, four, value⟩
    have front : (digits ++ rest).take 4 = digits := by
      rw [← four, List.take_left]
    have whole : digits.takeWhile (fun c => (hexDigit? c).isSome) = digits :=
      List.takeWhile_eq_self_iff.mpr (all_hexDigit value)
    simp only [codeUnit, front, whole, if_pos four, value, Option.getD_some]

/-! ## Escapes -/

theorem unicodeEscape_eq_ok_iff {c : Char} {text : List Char} {size : Nat} :
    unicodeEscape text = .ok (c, size) ↔
      ∃ digits rest, text = digits ++ rest ∧ digits.length = size ∧ CodeEscape digits c := by
  constructor
  · intro ok
    unfold unicodeEscape at ok
    split at ok
    · cases ok
    next unit read =>
    obtain ⟨digits, rest, rfl, isUnit⟩ := codeUnit_eq_ok_iff.mp read
    split at ok
    · cases ok
    next notLow =>
    split at ok
    · next isHigh =>
        have behind : (digits ++ rest).drop 4 = rest := by rw [← isUnit.four, List.drop_left]
        rw [behind] at ok
        split at ok
        · split at ok
          · cases ok
          next low readLow =>
          obtain ⟨second, rest, rfl, isSecond⟩ := codeUnit_eq_ok_iff.mp readLow
          split at ok
          · next isLow =>
              obtain ⟨rfl, rfl⟩ : joinSurrogates unit low = c ∧ 10 = size := by simpa using ok
              refine ⟨digits ++ '\\' :: 'u' :: second, rest, by simp, ?_,
                .pair isUnit isHigh isSecond isLow⟩
              simp [isUnit.four, isSecond.four]
          · cases ok
        · cases ok
    · next notHigh =>
        cases ok
        exact ⟨digits, rest, rfl, isUnit.four,
          .unit isUnit (Bool.eq_false_iff.mpr notLow) (Bool.eq_false_iff.mpr notHigh)⟩
  · rintro ⟨digits, rest, rfl, rfl, isCode⟩
    cases isCode with
    | unit isUnit notLow notHigh =>
        have read := codeUnit_eq_ok_iff.mpr ⟨digits, rest, rfl, isUnit⟩
        simp [unicodeEscape, read, notLow, notHigh, isUnit.four]
    | @pair first second high low isFirst isHigh isSecond isLow =>
        have read := codeUnit_eq_ok_iff.mpr ⟨first, '\\' :: 'u' :: (second ++ rest), rfl, isFirst⟩
        have read' := codeUnit_eq_ok_iff.mpr ⟨second, rest, rfl, isSecond⟩
        have notLow : isLowSurrogate high = false := by
          simp only [isHighSurrogate, isLowSurrogate, Bool.and_eq_true, decide_eq_true_eq,
            Bool.and_eq_false_iff, decide_eq_false_iff_not] at isHigh ⊢
          omega
        have behind : (first ++ '\\' :: 'u' :: (second ++ rest)).drop 4 =
            '\\' :: 'u' :: (second ++ rest) := by
          rw [← isFirst.four, List.drop_left]
        simp [unicodeEscape, read, notLow, isHigh, behind, read', isLow, isFirst.four, isSecond.four]

section Quotes

variable {quote : Char}

theorem of_escapeIn {escaped c : Char} {text : List Char} {size : Nat}
    (ok : escapeIn quote escaped text = .ok (c, size)) :
    ∃ digits rest, text = digits ++ rest ∧ digits.length = size ∧
      Item quote ('\\' :: escaped :: digits) c := by
  have letter {letter : Char} (known : (letter, c) ∈ escapes) (none : 0 = size) :
      ∃ digits rest, text = digits ++ rest ∧ digits.length = size ∧
        Item quote ('\\' :: letter :: digits) c := ⟨[], text, rfl, none, .letter known⟩
  unfold escapeIn at ok
  split at ok
  case h_8 =>
    obtain ⟨digits, rest, same, length, isCode⟩ := unicodeEscape_eq_ok_iff.mp ok
    exact ⟨digits, rest, same, length, .code isCode⟩
  case h_9 =>
    split at ok
    · next isQuote =>
        cases ok
        exact ⟨[], text, rfl, rfl, isQuote ▸ .quote⟩
    · split at ok <;> cases ok
  all_goals
    cases ok
    exact letter (by decide) rfl

theorem escapeIn_letter {letter c : Char} (known : (letter, c) ∈ escapes) (text : List Char) :
    escapeIn quote letter text = .ok (c, 0) := by
  simp only [escapes, List.mem_cons, Prod.mk.injEq, List.not_mem_nil, or_false] at known
  rcases known with ⟨rfl, rfl⟩ | ⟨rfl, rfl⟩ | ⟨rfl, rfl⟩ | ⟨rfl, rfl⟩ | ⟨rfl, rfl⟩ | ⟨rfl, rfl⟩ |
    ⟨rfl, rfl⟩ <;> rfl

/-! ## Rows of items -/

theorem of_stringBody {offset : Nat} {done text : List Char} {piece : Piece}
    (ok : stringBody quote offset done text = .ok piece) :
    ∃ body decoded rest, text = body ++ quote :: rest ∧ Spelling quote body decoded ∧
      piece = ⟨.string, offset + body.length + 1,
        some (.text (String.ofList (done.reverse ++ decoded)))⟩ := by
  induction length : text.length using Nat.strong_induction_on generalizing offset done text with
  | _ size ih =>
  subst length
  rw [stringBody.eq_def] at ok
  split at ok
  · cases ok
  next c rest =>
  split at ok
  · next isQuote =>
      cases ok
      exact ⟨[], [], rest, by rw [isQuote]; rfl, .nil, by simp⟩
  next notQuote =>
  split at ok
  · next isEscape =>
      split at ok
      · cases ok
      next escaped rest =>
      split at ok
      · cases ok
      next decoded more read =>
      obtain ⟨digits, after, rfl, rfl, isItem⟩ := of_escapeIn read
      rw [List.drop_left] at ok
      obtain ⟨body, others, behind, rfl, spelling, rfl⟩ := ih _ (by simp; omega) ok rfl
      refine ⟨c :: escaped :: digits ++ body, decoded :: others, behind, by simp,
        .cons (isEscape ▸ isItem) spelling, ?_⟩
      have size : offset + 2 + digits.length + body.length + 1 =
          offset + (c :: escaped :: digits ++ body).length + 1 := by
        simp only [List.length_append, List.length_cons]
        omega
      rw [size, List.reverse_cons, List.append_assoc, List.singleton_append]
  next notEscape =>
  split at ok
  · cases ok
  next notControl =>
  obtain ⟨body, others, behind, rfl, spelling, rfl⟩ := ih _ (by simp) ok rfl
  refine ⟨[c] ++ body, c :: others, behind, by simp,
    .cons (.plain notQuote notEscape notControl) spelling, ?_⟩
  rw [List.reverse_cons, List.append_assoc, List.singleton_append, List.singleton_append,
    List.length_cons, Nat.add_assoc offset 1, Nat.add_comm 1]

variable (isQuote : quote = '"' ∨ quote = '\'')
include isQuote

theorem stringBody_item {item : List Char} {c : Char} (isItem : Item quote item c) (offset : Nat)
    (done rest : List Char) :
    stringBody quote offset done (item ++ rest) =
      stringBody quote (offset + item.length) (c :: done) rest := by
  have notQuote : '\\' ≠ quote := by rcases isQuote with rfl | rfl <;> decide
  cases isItem with
  | plain notQuote notEscape notControl =>
      exact stringBody_plain offset done rest notQuote notEscape notControl
  | letter known =>
      exact stringBody_escape offset done rest notQuote _ c (escapeIn_letter known rest)
  | quote =>
      have read : escapeIn quote quote rest = .ok (quote, 0) := by
        rcases isQuote with rfl | rfl <;> rfl
      exact stringBody_escape offset done rest notQuote quote quote read
  | @code digits c isCode =>
      have read := unicodeEscape_eq_ok_iff.mpr ⟨digits, rest, rfl, rfl, isCode⟩
      have step := stringBody_escape offset done (digits ++ rest) notQuote 'u' c read
      rw [List.drop_left] at step
      rw [List.cons_append, List.cons_append, step]
      congr 1
      simp only [List.length_cons]
      omega

/-- A row of items is read up to the closing quote, whatever stands behind it. -/
theorem stringBody_spelling {body decoded : List Char} (spelling : Spelling quote body decoded)
    (offset : Nat) (done rest : List Char) :
    stringBody quote offset done (body ++ quote :: rest) =
      .ok ⟨.string, offset + body.length + 1,
        some (.text (String.ofList (done.reverse ++ decoded)))⟩ := by
  induction spelling generalizing offset done with
  | nil => simpa using stringBody_close quote offset done rest
  | @cons item text decoded c isItem _ ih =>
      rw [List.append_assoc, stringBody_item isQuote isItem, ih, List.reverse_cons,
        List.append_assoc, List.singleton_append, List.length_append, Nat.add_assoc offset]

/-- A literal is read exactly if it is a row of items with a closing quote behind. -/
theorem stringLiteral_eq_ok_iff {text : List Char} {piece : Piece} :
    stringLiteral quote text = .ok piece ↔
      ∃ body decoded rest, text = body ++ quote :: rest ∧ Spelling quote body decoded ∧
        piece = ⟨.string, body.length + 2, some (.text (String.ofList decoded))⟩ := by
  have size (body : List Char) : 1 + body.length + 1 = body.length + 2 := by omega
  constructor
  · intro ok
    obtain ⟨body, decoded, rest, same, spelling, rfl⟩ := of_stringBody ok
    exact ⟨body, decoded, rest, same, spelling, by rw [size]; rfl⟩
  · rintro ⟨body, decoded, rest, rfl, spelling, rfl⟩
    rw [stringLiteral, stringBody_spelling isQuote spelling, size]
    rfl

end Quotes

end JsonQuery.Token

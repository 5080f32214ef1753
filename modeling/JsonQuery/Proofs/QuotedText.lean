import Mathlib.Tactic
import JsonQuery.Token.Lexer
import JsonQuery.Text.Quoted

/-! # Reading quoted text

Every character of a quoted name is read back by itself: the escapes of the writer are among those
of the reader, and what is not escaped has no meaning between quotes.
-/

namespace JsonQuery.Token

open JsonQuery.Text

/-! ## One character at a time -/

section Steps

variable (quote : Char) (offset : Nat) (done rest : List Char)

theorem stringBody_close :
    stringBody quote offset done (quote :: rest) =
      .ok ⟨.string, offset + 1, some (.text (String.ofList done.reverse))⟩ := by
  rw [stringBody.eq_def]
  exact if_pos rfl

variable {quote}

theorem stringBody_plain {c : Char} (notQuote : c ≠ quote) (notEscape : c ≠ '\\')
    (notControl : ¬ c < ' ') :
    stringBody quote offset done (c :: rest) = stringBody quote (offset + 1) (c :: done) rest := by
  rw [stringBody.eq_def]
  simp only [if_neg notQuote, if_neg notEscape, if_neg notControl]

theorem stringBody_escape (notQuote : '\\' ≠ quote) (escaped decoded : Char) {more : Nat}
    (escape : escapeIn quote escaped rest = .ok (decoded, more)) :
    stringBody quote offset done ('\\' :: escaped :: rest) =
      stringBody quote (offset + 2 + more) (decoded :: done) (rest.drop more) := by
  rw [stringBody.eq_def]
  simp only [if_neg notQuote, if_true, escape]

end Steps

/-! ## Escapes of the writer -/

/-- There are thirty-two control characters below the blank. -/
theorem exists_code_of_control {c : Char} (control : c < ' ') :
    ∃ code, code < 32 ∧ c = Char.ofNat code :=
  ⟨c.toNat, control, (Char.ofNat_toNat c).symm⟩

theorem unicodeEscape_hexText4 {c : Char} (control : c < ' ') (rest : List Char) :
    unicodeEscape (hexText4 c ++ rest) = .ok (c, 4) ∧ (hexText4 c).length = 4 := by
  obtain ⟨code, small, rfl⟩ := exists_code_of_control control
  clear control
  interval_cases code <;> exact ⟨rfl, rfl⟩

theorem stringBody_quotedChar (c : Char) (offset : Nat) (done rest : List Char) :
    stringBody '\'' offset done (quotedChar c ++ rest) =
      stringBody '\'' (offset + (quotedChar c).length) (c :: done) rest := by
  have notQuote : '\\' ≠ '\'' := by decide
  unfold quotedChar
  split
  · exact stringBody_escape offset done rest notQuote 'b' '\x08' rfl
  · exact stringBody_escape offset done rest notQuote 'f' '\x0c' rfl
  · exact stringBody_escape offset done rest notQuote 'n' '\n' rfl
  · exact stringBody_escape offset done rest notQuote 'r' '\r' rfl
  · exact stringBody_escape offset done rest notQuote 't' '\t' rfl
  · exact stringBody_escape offset done rest notQuote '\'' '\'' rfl
  · exact stringBody_escape offset done rest notQuote '\\' '\\' rfl
  · next quote escape =>
      split
      · next control =>
          obtain ⟨read, length⟩ := unicodeEscape_hexText4 control rest
          have step := stringBody_escape offset done (hexText4 c ++ rest) notQuote 'u' c read
          simp only [List.cons_append, List.length_cons, length] at step ⊢
          rw [step, ← length, List.drop_left]
          congr 1
          omega
      · next control => exact stringBody_plain offset done rest quote escape control

theorem stringBody_quotedChars (name : List Char) (offset : Nat) (done rest : List Char) :
    stringBody '\'' offset done (name.flatMap quotedChar ++ '\'' :: rest) =
      .ok ⟨.string, offset + (name.flatMap quotedChar).length + 1,
        some (.text (String.ofList (done.reverse ++ name)))⟩ := by
  induction name generalizing offset done with
  | nil => simpa using stringBody_close '\'' offset done rest
  | cons c name ih =>
      rw [List.flatMap_cons, List.append_assoc, stringBody_quotedChar, ih, List.length_append,
        List.reverse_cons, List.append_assoc, List.singleton_append, Nat.add_assoc offset]

/-- A quoted name is one string literal, whatever stands behind it. -/
theorem stringLiteral_quotedChars (name rest : List Char) :
    stringLiteral '\'' ((quotedChars name).tail ++ rest) =
      .ok ⟨.string, (quotedChars name).length, some (.text (String.ofList name))⟩ := by
  have read := stringBody_quotedChars name 1 [] rest
  simp only [stringLiteral, quotedChars, List.tail_cons, List.append_assoc, List.singleton_append,
    read, List.reverse_nil, List.nil_append, List.length_cons, List.length_append, List.length_nil]
  congr 2
  omega

/-- A quoted name is no other name, whatever stands behind it. -/
theorem quotedChars_append_inj {name name' rest rest' : List Char}
    (same : quotedChars name ++ rest = quotedChars name' ++ rest') : name = name' := by
  have tails : (quotedChars name).tail ++ rest = (quotedChars name').tail ++ rest' :=
    congrArg List.tail same
  have read := stringLiteral_quotedChars name rest
  rw [tails, stringLiteral_quotedChars name' rest'] at read
  simp only [Except.ok.injEq, Piece.mk.injEq, Option.some.injEq, Literal.text.injEq,
    String.ofList_inj] at read
  exact read.2.2.symm

end JsonQuery.Token

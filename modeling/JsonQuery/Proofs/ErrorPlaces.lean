import JsonQuery.Proofs.TokenSpans

/-! # Where errors are

Every report on a query names a stretch of it that is not empty. A fault of the characters lies
within the query; a failure of the parser is blamed on a token, and on the end of the query with one
place beyond it.
-/

namespace JsonQuery

/-- A stretch that is not empty and lies within a text of the given size. -/
structure Span.Within (s : Span) (size : Nat) : Prop where
  nonempty : 1 ≤ s.length
  inside : s.stop ≤ size

theorem Span.Within.mono {s : Span} {size size' : Nat} (within : s.Within size)
    (le : size ≤ size') : s.Within size' := ⟨within.nonempty, within.inside.trans le⟩

namespace Token

open JsonQuery.Text

theorem within_misread {fault : Fault} {length size : Nat} (nonempty : 1 ≤ length)
    (inside : length ≤ size) : (misread fault length).span.Within size :=
  ⟨nonempty, by simpa [misread, Span.stop] using inside⟩

/-! ## Strings -/

theorem le_length_of_codeUnit {text : List Char} {read : Nat}
    (error : codeUnit text = .error read) : read ≤ text.length := by
  simp only [codeUnit] at error
  split at error
  · cases error
  · cases error
    exact (List.takeWhile_prefix _).length_le.trans (List.length_take_le' 4 text)

theorem four_le_length_of_codeUnit {text : List Char} {unit : Nat}
    (ok : codeUnit text = .ok unit) : 4 ≤ text.length := by
  obtain ⟨digits, rest, rfl, isUnit⟩ := codeUnit_eq_ok_iff.mp ok
  rw [List.length_append, isUnit.four]
  exact Nat.le_add_right 4 _

theorem bounds_of_unicodeEscape {text : List Char} {fault : Fault} {length : Nat}
    (error : unicodeEscape text = .error (fault, length)) :
    1 ≤ length ∧ length ≤ text.length + 2 := by
  unfold unicodeEscape at error
  split at error
  · next isShort =>
      cases error
      have := le_length_of_codeUnit isShort
      omega
  next isUnit =>
  have four := four_le_length_of_codeUnit isUnit
  split at error
  · cases error
    omega
  split at error
  · split at error
    · next rest behind =>
        have size : text.length = rest.length + 6 := by
          have := congrArg List.length behind
          simp only [List.length_drop, List.length_cons] at this
          omega
        split at error
        · next isShort =>
            cases error
            have := le_length_of_codeUnit isShort
            omega
        next isSecond =>
        have four' := four_le_length_of_codeUnit isSecond
        split at error
        · cases error
        · cases error
          omega
    · cases error
      omega
  · cases error

theorem bounds_of_escapeIn {quote escaped : Char} {text : List Char} {fault : Fault} {length : Nat}
    (error : escapeIn quote escaped text = .error (fault, length)) :
    1 ≤ length ∧ length ≤ text.length + 2 := by
  unfold escapeIn at error
  split at error
  case h_8 => exact bounds_of_unicodeEscape error
  case h_9 =>
    split at error
    · cases error
    split at error <;>
    · cases error
      omega
  all_goals cases error

theorem within_of_stringBody {quote : Char} {offset : Nat} {done text : List Char} {m : Misread}
    (opened : 1 ≤ offset) (error : stringBody quote offset done text = .error m) :
    m.span.Within (offset + text.length) := by
  fun_induction stringBody quote offset done text with
  | case1 offset done =>
      cases error
      exact within_misread opened le_rfl
  | case2 => cases error
  | case3 offset done =>
      cases error
      exact within_misread (Nat.le_add_left 1 offset) le_rfl
  | case4 offset done escaped rest fault length isError =>
      cases error
      obtain ⟨nonempty, inside⟩ := bounds_of_escapeIn isError
      refine ⟨nonempty, ?_⟩
      simp only [Span.stop, List.length_cons]
      omega
  | case5 offset done escaped rest decoded more read notQuote ih =>
      obtain ⟨digits, after, rfl, rfl, _⟩ := of_escapeIn read
      refine (ih (by omega) error).mono ?_
      simp only [List.drop_left, List.length_cons, List.length_append]
      omega
  | case6 offset done c rest =>
      cases error
      refine ⟨le_rfl, ?_⟩
      simp only [Span.stop, List.length_cons]
      omega
  | case7 offset done c rest notQuote notEscape notControl ih =>
      refine (ih (by omega) error).mono ?_
      rw [List.length_cons]
      omega

/-! ## Numerals -/

theorem length_of_splitFraction {text rest : List Char} {fraction : Option (List Char)}
    (split : splitFraction text = (fraction, rest)) :
    text.length = (fraction.map (·.length + 1)).getD 0 + rest.length := by
  obtain ⟨same, _⟩ := of_splitFraction split
  rw [same, List.length_append]
  cases fraction <;> rfl

theorem size_exponentOf_le (text : List Char) :
    ((exponentOf text).map Exponent.size).getD 0 ≤ text.length := by
  cases isExponent : exponentOf text with
  | none => exact Nat.zero_le _
  | some e =>
      obtain ⟨mark, after, _, rfl, _⟩ := of_exponentOf isExponent
      simp only [Option.map_some, Option.getD_some, Exponent.size, Exponent.spelled,
        List.length_cons, List.length_append]
      omega

theorem within_of_numeral {c : Char} {rest : List Char} {m : Misread} (digit : isDigit c = true)
    (error : numeral (c :: rest) = .error m) : m.span.Within (rest.length + 1) := by
  simp only [numeral] at error
  have sizes : ((c :: rest).takeWhile isDigit ++ (c :: rest).dropWhile isDigit).length =
      (c :: rest).length := by rw [List.takeWhile_append_dropWhile]
  have nonempty : 1 ≤ ((c :: rest).takeWhile isDigit).length :=
    List.length_pos_iff.mpr (by simp [digit])
  cases split : splitFraction ((c :: rest).dropWhile isDigit) with
  | mk fraction behind =>
  rw [List.length_append, length_of_splitFraction split, List.length_cons] at sizes
  have exponentSize := size_exponentOf_le behind
  rw [split] at error
  dsimp only at error
  split at error
  · cases error
    exact within_misread le_rfl (Nat.le_add_left 1 _)
  split at error
  · cases error
    exact within_misread (by omega) (by omega)
  split at error
  · cases error
    exact within_misread (by omega) (by omega)
  split at error
  · cases error
  · cases error
    exact within_misread (by omega) (by omega)

/-! ## Other tokens -/

theorem within_of_exactlyTwo {first second : Char} {kind : Kind} {rest : List Char} {m : Misread}
    (error : exactlyTwo first second kind rest = .error m) : m.span.Within (rest.length + 1) := by
  unfold exactlyTwo at error
  split at error
  · cases error
  · cases error
    exact within_misread le_rfl (Nat.le_add_left 1 _)

theorem within_of_dots {rest : List Char} {m : Misread} (error : dots rest = .error m) :
    m.span.Within (rest.length + 1) := by
  unfold dots oneOrTwo at error
  by_cases again : rest.head? = some '.'
  · obtain ⟨after, rfl⟩ := List.head?_eq_some_iff.mp again
    simp only [again, if_true, Piece.plain] at error
    split at error
    · cases error
      exact within_misread (Nat.le_succ 1) (by simp)
    · cases error
  · simp only [if_neg again, Piece.plain] at error
    split at error
    · cases error
      exact within_misread le_rfl (Nat.le_add_left 1 _)
    · cases error

theorem within_of_minusSign {rest : List Char} {m : Misread} (error : minusSign rest = .error m) :
    m.span.Within (rest.length + 1) := by
  unfold minusSign at error
  split at error
  · cases error
    exact within_misread le_rfl (Nat.le_add_left 1 _)
  split at error
  · cases error
  split at error <;>
  · cases error
    exact within_misread le_rfl (Nat.le_add_left 1 _)

theorem within_of_nameOrKeyword {previous : Option Kind} {c : Char} {rest : List Char} {m : Misread}
    (first : isNameFirst c = true) (error : nameOrKeyword previous (c :: rest) = .error m) :
    m.span.Within (rest.length + 1) := by
  unfold nameOrKeyword at error
  dsimp only at error
  have nonempty : 1 ≤ ((c :: rest).takeWhile isNameChar).length :=
    List.length_pos_iff.mpr (by simp [isNameChar_of_isNameFirst first])
  have inside : ((c :: rest).takeWhile isNameChar).length ≤ rest.length + 1 :=
    (List.takeWhile_prefix _).length_le
  split at error
  · cases error
  split at error
  · cases error
  split at error
  · cases error
  split at error
  · cases error
  split at error
  · cases error
  split at error
  · cases error
    exact within_misread nonempty inside
  · cases error

theorem within_of_pieceAt {previous : Option Kind} {c : Char} {rest : List Char} {m : Misread}
    (error : pieceAt previous c rest = .error m) : m.span.Within (rest.length + 1) := by
  have string {quote : Char} (error : stringLiteral quote rest = .error m) :
      m.span.Within (rest.length + 1) := by
    rw [Nat.add_comm]
    exact within_of_stringBody le_rfl error
  unfold pieceAt at error
  split at error
  case h_11 => exact within_of_dots error
  case h_15 | h_16 | h_17 => exact within_of_exactlyTwo error
  case h_18 => exact within_of_minusSign error
  case h_19 | h_20 => exact string error
  case h_21 =>
    split at error
    · next digit => exact within_of_numeral digit error
    split at error
    · next first => exact within_of_nameOrKeyword first error
    · cases error
      exact within_misread le_rfl (Nat.le_add_left 1 _)
  all_goals cases error

/-! ## Whole texts -/

theorem stop_shift (distance : Nat) (m : Misread) :
    (m.shift distance).span.stop = distance + m.span.stop := Nat.add_assoc _ _ _

theorem within_of_tokensFrom {previous : Option Kind} {offset : Nat} {text : List Char}
    {m : Misread} (error : tokensFrom previous offset text = .error m) :
    m.span.Within (offset + text.length) := by
  induction length : text.length using Nat.strong_induction_on
    generalizing previous offset text with
  | _ size ih =>
  subst length
  cases text with
  | nil =>
      rw [tokensFrom] at error
      cases error
  | cons c rest =>
      by_cases blank : isBlank c = true
      · rw [tokensFrom_blank blank] at error
        refine (ih _ (by simp) error rfl).mono ?_
        rw [List.length_cons]
        omega
      · rw [tokensFrom, if_neg blank] at error
        split at error
        · next m' isError =>
            cases error
            obtain ⟨nonempty, inside⟩ := within_of_pieceAt isError
            refine ⟨nonempty, ?_⟩
            rw [stop_shift, List.length_cons]
            omega
        · next piece read =>
            obtain ⟨more, after, rfl, size, _⟩ := isLexeme_of_pieceAt read
            rw [List.length_cons] at size
            have behind : (more ++ after).drop (piece.size - 1) = after := by
              rw [size, Nat.add_sub_cancel, List.drop_left]
            rw [behind] at error
            split at error
            · next m' isError =>
                cases error
                refine (ih _ (by simp) isError rfl).mono ?_
                rw [size, List.length_cons, List.length_append]
                omega
            · cases error

theorem within_of_ofChars {text : List Char} {m : Misread} (error : ofChars text = .error m) :
    m.span.Within text.length := by
  unfold ofChars at error
  split at error
  · next leading =>
      cases error
      refine ⟨le_rfl, ?_⟩
      cases text with
      | nil => cases leading
      | cons c rest => exact Nat.le_add_left 1 _
  split at error
  · next trailing =>
      cases error
      refine ⟨le_rfl, ?_⟩
      cases text with
      | nil => cases trailing
      | cons c rest =>
          simp only [Span.stop, List.length_cons]
          omega
  · have within := within_of_tokensFrom error
    rwa [Nat.zero_add] at within

end Token

namespace Parser

/-- A failure is blamed on a stretch of the query, or on the place behind its end. -/
theorem placed_of_blames {text : List Char} {ts : Tokens} {failure : Failure}
    (covers : Token.Covers text ts) (blames : Blames ts failure) :
    failure.span.Within text.length ∨ failure.span = ⟨text.length, 1⟩ := by
  obtain ⟨us, left, same⟩ := blames.placed
  rw [same, Failure.blame]
  cases us with
  | nil =>
      rcases Nat.eq_zero_or_pos text.length with empty | nonempty
      · exact .inr (by rw [empty]; rfl)
      · exact .inl ⟨le_rfl, nonempty⟩
  | cons t rest =>
      rw [current_cons]
      have member : t ∈ ts.dropLast ++ [Token.endAt text.length] := by
        rw [List.dropLast_append_getLast? _ covers.ended]
        exact left.subset List.mem_cons_self
      rcases List.mem_append.mp member with inner | last
      · have nonempty := covers.nonempty t inner
        have inside := (covers.placed t (List.dropLast_subset ts inner)).1
        exact .inl ⟨le_max_right _ _, by rwa [Nat.max_eq_left nonempty]⟩
      · obtain rfl := List.mem_singleton.mp last
        exact .inr rfl

end Parser

/-- Every report on a query carries its text and points into it: at a stretch that is not empty and
    lies within the query, or, for the parser alone, at the place behind its end. -/
theorem Query.errors_point_into_source {source : String} {d : Diagnostic}
    (error : compile source = .error d) :
    d.query = source ∧ ∃ span, d.span = some span ∧
      span.offset ≤ source.length ∧ 1 ≤ span.length ∧ span.stop ≤ source.length + 1 ∧
      (Token.ofQuery source = .error d → span.stop ≤ source.length) ∧
      (span.stop = source.length + 1 →
        (∃ ts, Token.ofQuery source = .ok ts) ∧ span = ⟨source.length, 1⟩) := by
  have length : source.toList.length = source.length := String.length_toList
  unfold compile at error
  cases read : Token.ofQuery source with
  | error other =>
      rw [read] at error
      cases error
      unfold Token.ofQuery at read
      cases isError : Token.ofChars source.toList with
      | ok ts =>
          rw [isError] at read
          cases read
      | error m =>
          rw [isError] at read
          cases read
          obtain ⟨nonempty, inside⟩ := Token.within_of_ofChars isError
          rw [length] at inside
          have place : m.span.offset ≤ m.span.stop := Nat.le_add_right _ _
          refine ⟨rfl, m.span, rfl, place.trans inside, nonempty, Nat.le_succ_of_le inside,
            fun _ => inside, fun beyond => ?_⟩
          omega
  | ok ts =>
      rw [read] at error
      obtain ⟨failure, blames, rfl⟩ := blames_of_ofTokens (Token.suited_of_ofQuery read) error
      have noFault : ¬Except.ok ts = (Except.error (failure.diagnostic source) : Except _ _) := by
        intro same
        cases same
      refine ⟨rfl, failure.span, rfl, ?_⟩
      rcases Parser.placed_of_blames (Token.covers_of_ofQuery read) blames with within | atEnd
      · obtain ⟨nonempty, inside⟩ := within
        rw [length] at inside
        have place : failure.span.offset ≤ failure.span.stop := Nat.le_add_right _ _
        refine ⟨place.trans inside, nonempty, Nat.le_succ_of_le inside,
          fun same => absurd same noFault, fun beyond => ?_⟩
        omega
      · rw [length] at atEnd
        rw [atEnd]
        exact ⟨le_rfl, le_rfl, le_rfl, fun same => absurd same noFault, fun _ => ⟨⟨ts, rfl⟩, rfl⟩⟩

/-- The report on a query that ends with a dot. -/
def danglingDot : Diagnostic :=
  ⟨.grammar, "expected a member name or `*` after `.`, found end of query", "$.é.", some ⟨4, 1⟩⟩

theorem Query.errors_point_into_source_dot :
    compile "$.é." = .error danglingDot ∧ ∃ span, danglingDot.span = some span ∧
      (span.stop = "$.é.".length + 1 → (∃ ts, Token.ofQuery "$.é." = .ok ts) ∧ span = ⟨4, 1⟩) := by
  have read : Token.ofQuery "$.é." =
      .ok [⟨.root, "$", none, ⟨0, 1⟩⟩, ⟨.dot, ".", none, ⟨1, 1⟩⟩, ⟨.identifier, "é", none, ⟨2, 1⟩⟩,
        ⟨.dot, ".", none, ⟨3, 1⟩⟩, Token.endAt 4] := by decide +kernel
  have error : compile "$.é." = .error danglingDot := by
    rw [compile, read]
    rfl
  obtain ⟨_, span, isSpan, _, _, _, _, atEnd⟩ := errors_point_into_source error
  exact ⟨error, span, isSpan, atEnd⟩

end JsonQuery

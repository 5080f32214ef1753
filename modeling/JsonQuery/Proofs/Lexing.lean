import Mathlib.Tactic
import JsonQuery.Token.Lexer
import JsonQuery.Proofs.PrintedNumbers
import JsonQuery.Proofs.QuotedText

/-! # Texts and the tokens they spell

A part of a text is judged with what stands behind it present, so that two parts can be put together
where the second does not go on with the last token of the first. Tokens remember their place, hence
a part spells tokens with a property and not a fixed list of them.
-/

namespace JsonQuery.Token

open JsonQuery.Text

/-- Wherever the text begins and whatever is allowed to stand behind it, it is split into tokens with
    the property, and what stands behind it is split as if it stood alone. -/
def Spells (follow : List Char → Prop) (text : List Char) (property : List Token → Prop) : Prop :=
  ∀ offset rest, follow rest → ∃ ts, property ts ∧
    tokensFrom none offset (text ++ rest) =
      (tokensFrom none (offset + text.length) rest).map (ts ++ ·)

def anything : List Char → Prop := fun _ => True

/-- The end, a blank, a closing bracket, a comma or a colon follows. -/
def delimiter (rest : List Char) : Prop :=
  ∀ c, rest.head? = some c → c ∈ [' ', ']', ')', ',', ':']

/-- The tokens are one, of the given kind, characters and value. -/
def IsToken (kind : Kind) (text : List Char) (literal : Option Literal) (ts : List Token) : Prop :=
  ∃ span, ts = [⟨kind, String.ofList text, literal, span⟩]

/-! ## Putting texts together -/

namespace Spells

variable {follow follow' : List Char → Prop} {text text' : List Char}
  {property property' : List Token → Prop}

theorem nil (holds : property []) : Spells follow [] property := by
  intro offset rest _
  refine ⟨[], holds, ?_⟩
  cases same : tokensFrom none offset rest <;> simp [same, Except.map]

theorem mono (spells : Spells follow text property) (weaker : ∀ rest, follow' rest → follow rest)
    (implies : ∀ ts, property ts → property' ts) : Spells follow' text property' := by
  intro offset rest allowed
  obtain ⟨ts, holds, same⟩ := spells offset rest (weaker rest allowed)
  exact ⟨ts, implies ts holds, same⟩

theorem append {both : List Token → Prop} (first : Spells follow text property)
    (second : Spells follow' text' property')
    (allowed : ∀ rest, follow' rest → follow (text' ++ rest))
    (join : ∀ ts us, property ts → property' us → both (ts ++ us)) :
    Spells follow' (text ++ text') both := by
  intro offset rest follows
  obtain ⟨ts, holds, same⟩ := first offset (text' ++ rest) (allowed rest follows)
  obtain ⟨us, holds', same'⟩ := second (offset + text.length) rest follows
  refine ⟨ts ++ us, join ts us holds holds', ?_⟩
  rw [List.append_assoc, same, same', List.length_append, ← Nat.add_assoc]
  cases tokensFrom none (offset + text.length + text'.length) rest <;> simp [Except.map]

end Spells

/-! ## Single tokens -/

@[simp]
theorem tokensFrom_nil (previous : Option Kind) (offset : Nat) :
    tokensFrom previous offset [] = .ok [endAt offset] := by
  rw [tokensFrom]

theorem tokensFrom_blank {c : Char} (blank : isBlank c = true) (previous : Option Kind)
    (offset : Nat) (rest : List Char) :
    tokensFrom previous offset (c :: rest) = tokensFrom previous (offset + 1) rest := by
  rw [tokensFrom, if_pos blank]

theorem tokensFrom_piece {previous : Option Kind} {c : Char} {rest : List Char} {piece : Piece}
    (notBlank : isBlank c = false) (read : pieceAt previous c rest = .ok piece) (offset : Nat) :
    tokensFrom previous offset (c :: rest) =
      (tokensFrom (some piece.kind) (offset + piece.size) (rest.drop (piece.size - 1))).map
        (ofPiece offset c rest piece :: ·) := by
  rw [tokensFrom, if_neg (by simp [notBlank]), read]
  dsimp only
  cases tokensFrom (some piece.kind) (offset + piece.size) (rest.drop (piece.size - 1)) <;> rfl

theorem tokensFrom_misread {previous : Option Kind} {c : Char} {rest : List Char} {m : Misread}
    (notBlank : isBlank c = false) (read : pieceAt previous c rest = .error m) (offset : Nat) :
    tokensFrom previous offset (c :: rest) = .error (m.shift offset) := by
  rw [tokensFrom, if_neg (by simp [notBlank]), read]

/-- Only a dot changes what the token behind it is. -/
theorem pieceAt_of_not_dot {kind : Kind} (dot : kind ≠ .dot) (dots : kind ≠ .doubleDot) (c : Char)
    (rest : List Char) : pieceAt (some kind) c rest = pieceAt none c rest := by
  have name : ∀ text, nameOrKeyword (some kind) text = nameOrKeyword none text := by
    intro text
    simp [nameOrKeyword, dot, dots]
  unfold pieceAt
  simp only [name]

theorem tokensFrom_of_not_dot {kind : Kind} (dot : kind ≠ .dot) (dots : kind ≠ .doubleDot)
    (offset : Nat) (text : List Char) :
    tokensFrom (some kind) offset text = tokensFrom none offset text := by
  induction text generalizing offset with
  | nil => rw [tokensFrom, tokensFrom]
  | cons c rest ih =>
      by_cases blank : isBlank c = true
      · rw [tokensFrom_blank blank, tokensFrom_blank blank, ih]
      · rw [tokensFrom, tokensFrom, pieceAt_of_not_dot dot dots, if_neg blank, if_neg blank]

/-- The piece at the start of a text makes it one token, unless it is a dot. -/
theorem Spells.token {follow : List Char → Prop} {c : Char} {more : List Char} {kind : Kind}
    {literal : Option Literal} (notBlank : isBlank c = false)
    (read : ∀ rest, follow rest →
      pieceAt none c (more ++ rest) = .ok ⟨kind, (c :: more).length, literal⟩)
    (dot : kind ≠ .dot) (dots : kind ≠ .doubleDot) :
    Spells follow (c :: more) (IsToken kind (c :: more) literal) := by
  intro offset rest follows
  refine ⟨[⟨kind, String.ofList (c :: more), literal, ⟨offset, (c :: more).length⟩⟩], ⟨_, rfl⟩, ?_⟩
  rw [List.cons_append, tokensFrom_piece notBlank (read rest follows) offset]
  dsimp only
  rw [tokensFrom_of_not_dot dot dots]
  simp [ofPiece]

theorem Spells.blank {follow : List Char → Prop} {text : List Char} {property : List Token → Prop}
    (spells : Spells follow text property) : Spells follow (' ' :: text) property := by
  intro offset rest follows
  obtain ⟨ts, holds, same⟩ := spells (offset + 1) rest follows
  refine ⟨ts, holds, ?_⟩
  rw [List.cons_append, tokensFrom_blank rfl, same, List.length_cons,
    show offset + 1 + text.length = offset + (text.length + 1) by omega]

theorem Spells.dots {follow : List Char → Prop} {text : List Char} {property : List Token → Prop}
    (spells : Spells follow ('[' :: text) property) :
    Spells follow ('.' :: '.' :: '[' :: text)
      fun ts => ∃ dots us, ts = dots :: us ∧ dots.kind = .doubleDot ∧ property us := by
  intro offset rest follows
  obtain ⟨ts, holds, same⟩ := spells (offset + 2) rest follows
  refine ⟨⟨.doubleDot, "..", none, ⟨offset, 2⟩⟩ :: ts, ⟨_, _, rfl, rfl, holds⟩, ?_⟩
  have bracket : ∀ previous, pieceAt previous '[' (text ++ rest) = .ok (.plain .leftBracket 1) :=
    fun _ => rfl
  have same' : tokensFrom (some .doubleDot) (offset + 2) ('[' :: text ++ rest) =
      tokensFrom none (offset + 2) ('[' :: text ++ rest) := by
    rw [List.cons_append, tokensFrom_piece rfl (bracket _), tokensFrom_piece rfl (bracket _)]
  have read : pieceAt none '.' ('.' :: ('[' :: text ++ rest)) = .ok (.plain .doubleDot 2) := rfl
  have rest' : ('.' :: ('[' :: text ++ rest)).drop ((Piece.plain .doubleDot 2).size - 1) =
      '[' :: text ++ rest := rfl
  rw [List.cons_append, List.cons_append, tokensFrom_piece rfl read, rest']
  simp only [Piece.plain]
  have place : offset + 2 + ('[' :: text).length = offset + ('.' :: '.' :: '[' :: text).length := by
    simp only [List.length_cons]
    omega
  rw [same', same, place]
  cases tokensFrom none (offset + ('.' :: '.' :: '[' :: text).length) rest <;>
    simp [Except.map, ofPiece]

/-! ## Signs -/

/-- The signs that are tokens whatever follows. -/
def sign? : Char → Option Kind
  | '$' => some .root
  | '@' => some .current
  | '[' => some .leftBracket
  | ']' => some .rightBracket
  | '(' => some .leftParen
  | ')' => some .rightParen
  | ',' => some .comma
  | ':' => some .colon
  | '?' => some .question
  | '*' => some .star
  | _ => none

theorem spells_sign {c : Char} {kind : Kind} (sign : sign? c = some kind)
    (follow : List Char → Prop) : Spells follow [c] (IsToken kind [c] none) := by
  have facts : isBlank c = false ∧ (∀ rest, pieceAt none c rest = .ok (.plain kind 1)) ∧
      kind ≠ .dot ∧ kind ≠ .doubleDot := by
    unfold sign? at sign
    split at sign <;> cases sign <;> exact ⟨rfl, fun _ => rfl, by decide, by decide⟩
  obtain ⟨notBlank, read, dot, dots⟩ := facts
  exact Spells.token notBlank (fun rest _ => read rest) dot dots

/-- What follows is no equals sign, which would go on with an exclamation mark. -/
def notEquals (rest : List Char) : Prop := rest.head? ≠ some '='

theorem spells_not : Spells notEquals ['!'] (IsToken .not ['!'] none) := by
  have read : ∀ rest, notEquals rest → pieceAt none '!' ([] ++ rest) = .ok (.plain .not 1) := by
    intro rest follows
    change Except.ok (oneOrTwo '=' .not .ne rest) = _
    rw [oneOrTwo, if_neg follows]
  exact Spells.token rfl read (by decide) (by decide)

/-- The kind of the token of an operator. -/
def kindOf : Operator → Kind
  | .or => .or
  | .and => .and
  | .eq => .eq
  | .ne => .ne
  | .lt => .lt
  | .le => .le
  | .gt => .gt
  | .ge => .ge

def blank (rest : List Char) : Prop := rest.head? = some ' '

theorem spells_symbol (operator : Operator) :
    Spells blank operator.symbol.toList
      (IsToken (kindOf operator) operator.symbol.toList none) := by
  have follows : ∀ {rest}, blank rest → ∃ more, rest = ' ' :: more := by
    intro rest follows
    cases rest with
    | nil => cases follows
    | cons c more => exact ⟨more, by cases follows; rfl⟩
  cases operator <;>
    refine Spells.token rfl (fun rest is => ?_) (by decide) (by decide) <;>
    obtain ⟨more, rfl⟩ := follows is <;> rfl

/-! ## Names, strings and numbers -/

theorem delimiter_not_name {rest : List Char} (follows : delimiter rest) (c : Char)
    (first : rest.head? = some c) : isNameChar c = false := by
  have member := follows c first
  simp only [List.mem_cons, List.not_mem_nil, or_false] at member
  rcases member with rfl | rfl | rfl | rfl | rfl <;> rfl

theorem delimiter_endsNumeral {rest : List Char} (follows : delimiter rest) : EndsNumeral rest := by
  intro c first
  have member := follows c first
  simp only [List.mem_cons, List.not_mem_nil, or_false] at member
  rcases member with rfl | rfl | rfl | rfl | rfl <;> decide

theorem not_isDigit_of_isNameFirst {c : Char} (first : isNameFirst c = true) : ¬isDigit c = true := by
  intro digit
  simp only [isNameFirst, isDigit, Bool.or_eq_true, Bool.and_eq_true, decide_eq_true_eq, beq_iff_eq,
    Char.le_def, UInt32.le_iff_toNat_le] at first digit
  rcases first with ((first | first) | rfl) | first
  · have : (97 : Nat) ≤ c.val.toNat := first.1
    have : c.val.toNat ≤ 57 := digit.2
    omega
  · have : (65 : Nat) ≤ c.val.toNat := first.1
    have : c.val.toNat ≤ 57 := digit.2
    omega
  · exact absurd digit (by decide)
  · have : (128 : Nat) ≤ c.val.toNat := first
    have : c.val.toNat ≤ 57 := digit.2
    omega

theorem pieceAt_name {c : Char} (first : isNameFirst c = true) (previous : Option Kind)
    (rest : List Char) : pieceAt previous c rest = nameOrKeyword previous (c :: rest) := by
  have notDigit := not_isDigit_of_isNameFirst first
  unfold pieceAt
  split
  all_goals first
    | exact absurd first (by decide)
    | rw [if_neg notDigit, if_pos first]

theorem pieceAt_digit {c : Char} (digit : isDigit c = true) (previous : Option Kind)
    (rest : List Char) : pieceAt previous c rest = numeral (c :: rest) := by
  unfold pieceAt
  split
  all_goals first
    | exact absurd digit (by decide)
    | exact if_pos digit

theorem Spells.word {follow : List Char → Prop} (c : Char) (more : List Char) {kind : Kind}
    (first : isNameFirst c = true)
    (read : ∀ rest, follow rest →
      nameOrKeyword none (c :: more ++ rest) = .ok (.plain kind (c :: more).length))
    (dot : kind ≠ .dot) (dots : kind ≠ .doubleDot) :
    Spells follow (c :: more) (IsToken kind (c :: more) none) := by
  have notBlank : isBlank c = false := by
    rw [Bool.eq_false_iff]
    intro blank
    simp only [isBlank, Bool.or_eq_true, beq_iff_eq] at blank
    rcases blank with ((rfl | rfl) | rfl) | rfl <;> exact absurd first (by decide)
  refine Spells.token notBlank (fun rest follows => ?_) dot dots
  rw [pieceAt_name first, ← List.cons_append, read rest follows]
  rfl

theorem nameOrKeyword_keyword {run rest : List Char} (all : ∀ d ∈ run, isNameChar d = true)
    (follows : delimiter rest) {kind : Kind}
    (isKeyword : (String.ofList run, kind) ∈
      [("true", Kind.true), ("false", Kind.false), ("null", Kind.null)]) :
    nameOrKeyword none (run ++ rest) = .ok (.plain kind run.length) := by
  have read : (run ++ rest).takeWhile isNameChar = run :=
    takeWhile_run all (delimiter_not_name follows)
  simp only [List.mem_cons, Prod.mk.injEq, List.not_mem_nil, or_false] at isKeyword
  rcases isKeyword with ⟨word, rfl⟩ | ⟨word, rfl⟩ | ⟨word, rfl⟩ <;>
    simp [nameOrKeyword, read, word]

def parenthesis (rest : List Char) : Prop := rest.head? = some '('

theorem nameOrKeyword_function {run rest : List Char} (all : ∀ d ∈ run, isNameChar d = true)
    (follows : parenthesis rest) (other : String.ofList run ∉ ["true", "false", "null"]) :
    nameOrKeyword none (run ++ rest) = .ok (.plain .function run.length) := by
  have stop : ∀ d, rest.head? = some d → isNameChar d = false := by
    intro d first
    cases follows.symm.trans first
    rfl
  have read : (run ++ rest).takeWhile isNameChar = run := takeWhile_run all stop
  have behind : (run ++ rest).dropWhile isNameChar = rest := dropWhile_run all stop
  simp only [List.mem_cons, List.not_mem_nil, or_false, not_or] at other
  obtain ⟨notTrue, notFalse, notNull⟩ := other
  have paren : rest.head? = some '(' := follows
  simp [nameOrKeyword, read, behind, notTrue, notFalse, notNull, paren]

theorem spells_true : Spells delimiter "true".toList (IsToken .true "true".toList none) :=
  Spells.word 't' ['r', 'u', 'e'] rfl
    (fun _ follows => nameOrKeyword_keyword (List.all_eq_true.mp rfl) follows (by decide))
    (by decide) (by decide)

theorem spells_false : Spells delimiter "false".toList (IsToken .false "false".toList none) :=
  Spells.word 'f' ['a', 'l', 's', 'e'] rfl
    (fun _ follows => nameOrKeyword_keyword (List.all_eq_true.mp rfl) follows (by decide))
    (by decide) (by decide)

theorem spells_null : Spells delimiter "null".toList (IsToken .null "null".toList none) :=
  Spells.word 'n' ['u', 'l', 'l'] rfl
    (fun _ follows => nameOrKeyword_keyword (List.all_eq_true.mp rfl) follows (by decide))
    (by decide) (by decide)

theorem spells_function (function : Function) :
    Spells parenthesis function.name.toList (IsToken .function function.name.toList none) := by
  have all : ∀ d ∈ function.name.toList, isNameChar d = true := by
    cases function <;> exact List.all_eq_true.mp rfl
  have other : String.ofList function.name.toList ∉ ["true", "false", "null"] := by
    cases function <;> decide
  have first : ∃ c more, function.name.toList = c :: more ∧ isNameFirst c = true := by
    cases function <;> exact ⟨_, _, rfl, rfl⟩
  obtain ⟨c, more, same, first⟩ := first
  rw [same] at all other ⊢
  exact Spells.word c more first (fun _ follows => nameOrKeyword_function all follows other) (by decide)
    (by decide)

theorem spells_quoted (name : String) :
    Spells anything (quoted name).toList
      (IsToken .string (quoted name).toList (some (.text name))) := by
  have read : ∀ rest, pieceAt none '\'' ((quotedChars name.toList).tail ++ rest) =
      .ok ⟨.string, (quotedChars name.toList).length, some (.text name)⟩ := by
    intro rest
    change stringLiteral '\'' ((quotedChars name.toList).tail ++ rest) = _
    rw [stringLiteral_quotedChars, String.ofList_toList]
  have split : (quoted name).toList = '\'' :: (quotedChars name.toList).tail := by
    simp [quoted, quotedChars]
  rw [split]
  exact Spells.token rfl (fun rest _ => read rest) (by decide) (by decide)

theorem spells_numeral {n : Numeral} (wf : n.WellFormed) {number : Number}
    (value : n.value? = some number) :
    Spells delimiter n.chars (IsToken .number n.chars (some (.number number))) := by
  obtain ⟨c, more, whole⟩ := List.exists_cons_of_ne_nil wf.nonempty
  have digit : isDigit c = true := wf.whole c (by simp [whole])
  have split : n.chars = c :: (more ++ (n.fractionChars ++ n.exponentChars)) := by
    simp [Numeral.chars, whole]
  have notBlank : isBlank c = false := by
    rw [Bool.eq_false_iff]
    intro blank
    simp only [isBlank, Bool.or_eq_true, beq_iff_eq] at blank
    rcases blank with ((rfl | rfl) | rfl) | rfl <;> exact absurd digit (by decide)
  have read : ∀ rest, delimiter rest →
      pieceAt none c (more ++ (n.fractionChars ++ n.exponentChars) ++ rest) =
        .ok ⟨.number, n.chars.length, some (.number number)⟩ := by
    intro rest follows
    rw [pieceAt_digit digit, ← List.cons_append, ← split]
    exact numeral_chars wf value (delimiter_endsNumeral follows)
  rw [split] at read ⊢
  exact Spells.token notBlank read (by decide) (by decide)

theorem spells_minus : Spells (fun rest => ∃ c, rest.head? = some c ∧ isDigit c = true) ['-']
    (IsToken .minus ['-'] none) := by
  have read : ∀ rest : List Char, (∃ c, rest.head? = some c ∧ isDigit c = true) →
      pieceAt none '-' ([] ++ rest) = .ok (.plain .minus 1) := by
    rintro rest ⟨c, first, digit⟩
    change minusSign rest = _
    cases rest with
    | nil => cases first
    | cons d rest =>
        obtain rfl := Option.some.inj first
        simp only [minusSign, if_pos digit]
  exact Spells.token rfl read (by decide) (by decide)

/-! ## Whole texts -/

/-- A text is split from its first character on, unless a blank stands at one of its ends. -/
theorem ofChars_eq_tokensFrom {text : List Char}
    (first : ∀ c, text.head? = some c → isBlank c = false)
    (last : ∀ c, text.getLast? = some c → isBlank c = false) :
    ofChars text = tokensFrom none 0 text := by
  have noneBefore : text.head?.any isBlank = false := by
    cases isFirst : text.head? with
    | none => rfl
    | some c => exact first c isFirst
  have noneBehind : text.getLast?.any isBlank = false := by
    cases isLast : text.getLast? with
    | none => rfl
    | some c => exact last c isLast
  rw [ofChars, if_neg (by simp [noneBefore]), if_neg (by simp [noneBehind])]

theorem ofQuery_eq_ok_iff {source : String} {ts : List Token} :
    ofQuery source = .ok ts ↔ ofChars source.toList = .ok ts := by
  unfold ofQuery
  cases ofChars source.toList with
  | error m => simp [Except.mapError]
  | ok us => simp [Except.mapError]

end JsonQuery.Token

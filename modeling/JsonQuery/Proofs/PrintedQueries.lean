import Mathlib.Tactic
import JsonQuery.Query.Compile
import JsonQuery.Proofs.ParserCompleteness
import JsonQuery.Proofs.Lexing
import JsonQuery.Proofs.NormalForm

/-! # Normalized text is read back

The text of a well-formed expression spells tokens from which the grammar derives its normal form.
The proof follows the syntax; the phrases are put together from their parts by the lemmas that come
first, one for each shape of text.
-/

namespace JsonQuery

open Token JsonQuery.Parser Text

/-- The text spells tokens from which the grammar derives the phrase. -/
def Prints (follow : List Char → Prop) (text : String) (phrase : Phrase) (result : phrase.Result) :
    Prop :=
  Spells follow text.toList fun ts => Derives phrase ts result

/-! ## Bounds -/

theorem spells_toDigits {n : Nat} (small : (n : Int) < Number.signedLimit) :
    Spells delimiter (Nat.toDigits 10 n) fun ts =>
      ∃ t, ts = [t] ∧ IsInteger t ∧ Text.decimalValue t.lexeme.toList = n := by
  have digits := spells_numeral (Numeral.wellFormed_ofNat n) (Numeral.value?_ofNat small)
  rw [Numeral.chars_ofNat] at digits
  refine digits.mono (fun _ follows => follows) ?_
  rintro _ ⟨span, rfl⟩
  refine ⟨_, rfl, ⟨rfl, ?_, ?_⟩, ?_⟩
  · simp
  · intro c member
    exact isDigit_toDigits (n := n) (by simpa using member)
  · simp

theorem head?_toDigits (n : Nat) (rest : List Char) :
    ∃ c, (Nat.toDigits 10 n ++ rest).head? = some c ∧ isDigit c = true := by
  obtain ⟨c, more, split⟩ :=
    List.exists_cons_of_ne_nil (show Nat.toDigits 10 n ≠ [] from Nat.toDigits_ne_nil)
  exact ⟨c, by simp [split], isDigit_toDigits (n := n) (by simp [split])⟩

theorem spells_intText {value : Int} (safe : isSafeInteger value = true) :
    Spells delimiter (intText value).toList (SignedInteger · value) := by
  have bounds := abs_le_of_isSafeInteger safe
  have digits : Spells delimiter (Nat.toDigits 10 value.natAbs) _ :=
    spells_toDigits (by simp only [Number.signedLimit]; omega)
  rcases lt_or_ge value 0 with negative | positive
  · have same : (intText value).toList = ['-'] ++ Nat.toDigits 10 value.natAbs := by
      simp [intText, negative]
    rw [same]
    refine spells_minus.append digits (fun rest _ => head?_toDigits value.natAbs rest) ?_
    rintro _ _ ⟨span, rfl⟩ ⟨t, rfl, integer, magnitude⟩
    have nonzero : t.lexeme ≠ "0" := by
      intro zero
      rw [zero] at magnitude
      have : value.natAbs = 0 := magnitude.symm
      omega
    have isValue : -(Text.decimalValue t.lexeme.toList : Int) = value := by omega
    exact isValue ▸ SignedInteger.negative rfl integer nonzero
  · have same : (intText value).toList = Nat.toDigits 10 value.natAbs := by
      simp [intText, not_lt.mpr positive]
    rw [same]
    refine digits.mono (fun _ follows => follows) ?_
    rintro _ ⟨t, rfl, integer, magnitude⟩
    have isValue : (Text.decimalValue t.lexeme.toList : Int) = value := by omega
    exact isValue ▸ SignedInteger.positive integer

theorem spells_boundText {bound : Option Int}
    (safe : ∀ value ∈ bound, isSafeInteger value = true) :
    Spells delimiter (boundText bound).toList (Bound · bound) := by
  cases bound with
  | none => exact Spells.nil .absent
  | some value =>
      have isSafe : isSafeInteger value = true := safe value rfl
      exact (spells_intText isSafe).mono (fun _ follows => follows)
        (fun _ integer => .present integer isSafe)

/-! ## Brackets and parentheses -/

theorem delimiter_cons {c : Char} (member : c ∈ [' ', ']', ')', ',', ':']) (rest : List Char) :
    delimiter (c :: rest) := by
  intro d first
  cases first
  exact member

theorem spells_enclosed (opening closing : Char) {first last : Token.Kind}
    (openingSign : sign? opening = some first) (closingSign : sign? closing = some last)
    (closes : closing ∈ [' ', ']', ')', ',', ':']) {text : List Char} {property : List Token → Prop}
    (inner : Spells delimiter text property) (follow : List Char → Prop) :
    Spells follow ([opening] ++ (text ++ [closing])) fun ts =>
      ∃ t us u, ts = t :: (us ++ [u]) ∧ t.kind = first ∧ u.kind = last ∧ property us := by
  have closed : Spells follow (text ++ [closing]) fun ts =>
      ∃ us u, ts = us ++ [u] ∧ u.kind = last ∧ property us := by
    refine inner.append (spells_sign closingSign follow) (fun rest _ => delimiter_cons closes rest) ?_
    rintro ts _ holds ⟨span, rfl⟩
    exact ⟨ts, _, rfl, rfl, holds⟩
  refine (spells_sign openingSign anything).append closed (fun _ _ => trivial) ?_
  rintro _ _ ⟨span, rfl⟩ ⟨us, u, rfl, kind, holds⟩
  exact ⟨_, us, u, rfl, rfl, kind, holds⟩

theorem Prints.bracket {text : String} {terms : List Term}
    (selectors : Prints delimiter text .selectors terms) :
    Prints anything ("[" ++ text ++ "]") .bracket (bracketTerm terms) := by
  have same : ("[" ++ text ++ "]").toList = ['['] ++ (text.toList ++ [']']) := by simp
  rw [Prints, same]
  refine (spells_enclosed '[' ']' rfl rfl (by decide) selectors anything).mono (fun _ _ => trivial) ?_
  rintro _ ⟨t, us, u, rfl, opening, closing, holds⟩
  exact .enclosed opening holds closing

theorem Prints.group {text : String} {e : Expr} (expression : Prints delimiter text (.level 0) e) :
    Prints anything ("(" ++ text ++ ")") .operand e.group := by
  have same : ("(" ++ text ++ ")").toList = ['('] ++ (text.toList ++ [')']) := by simp
  rw [Prints, same]
  refine (spells_enclosed '(' ')' rfl rfl (by decide) expression anything).mono (fun _ _ => trivial) ?_
  rintro _ ⟨t, us, u, rfl, opening, closing, holds⟩
  exact .group opening holds closing

theorem Prints.call {function : Function} {text : String} {es : List Expr} {term : Term}
    (inner : Prints delimiter text .arguments es) (check : Term.call? function es = .ok term) :
    Prints anything (function.name ++ "(" ++ text ++ ")") .operand (.ofTerm term) := by
  have same : (function.name ++ "(" ++ text ++ ")").toList =
      function.name.toList ++ (['('] ++ (text.toList ++ [')'])) := by simp
  rw [Prints, same]
  refine (spells_function function).append
    (spells_enclosed '(' ')' rfl rfl (by decide) inner anything) (fun _ _ => rfl) ?_
  rintro _ _ ⟨span, rfl⟩ ⟨t, us, u, rfl, opening, closing, holds⟩
  refine .call rfl ?_ opening holds closing check
  simp only [String.ofList_toList]
  exact Function.ofName?_name function

/-! ## Lists with commas -/

theorem Prints.oneSelector {text : String} {term : Term} (first : Prints delimiter text .selector term) :
    Prints delimiter text .selectors [term] :=
  first.mono (fun _ follows => follows) fun _ derives => .oneSelector derives

theorem spells_comma {text text' : List Char} {property property' : List Token → Prop}
    (first : Spells delimiter text property) (second : Spells delimiter text' property') :
    Spells delimiter (text ++ ([','] ++ (' ' :: text'))) fun ts =>
      ∃ us comma us', ts = us ++ comma :: us' ∧ comma.kind = .comma ∧ property us ∧ property' us' := by
  have behind : Spells delimiter ([','] ++ (' ' :: text')) fun ts =>
      ∃ comma us', ts = comma :: us' ∧ comma.kind = .comma ∧ property' us' := by
    refine (spells_sign rfl anything).append second.blank (fun _ _ => trivial) ?_
    rintro _ us' ⟨span, rfl⟩ holds
    exact ⟨_, us', rfl, rfl, holds⟩
  refine first.append behind (fun rest _ => delimiter_cons (by decide) _) ?_
  rintro us _ holds ⟨comma, us', rfl, kind, holds'⟩
  exact ⟨us, comma, us', rfl, kind, holds, holds'⟩

theorem Prints.moreSelectors {text text' : String} {term : Term} {terms : List Term}
    (first : Prints delimiter text .selector term) (more : Prints delimiter text' .selectors terms) :
    Prints delimiter (text ++ ", " ++ text') .selectors (term :: terms) := by
  have same : (text ++ ", " ++ text').toList = text.toList ++ ([','] ++ (' ' :: text'.toList)) := by
    simp
  rw [Prints, same]
  refine (spells_comma first more).mono (fun _ follows => follows) ?_
  rintro _ ⟨us, comma, us', rfl, kind, holds, holds'⟩
  exact .moreSelectors holds kind holds'

theorem Prints.lastArgument {text : String} {e : Expr} (first : Prints delimiter text (.level 0) e) :
    Prints delimiter text .moreArguments [e] :=
  first.mono (fun _ follows => follows) fun _ derives => .lastArgument derives

theorem Prints.nextArgument {text text' : String} {e : Expr} {es : List Expr}
    (first : Prints delimiter text (.level 0) e)
    (more : Prints delimiter text' .moreArguments es) :
    Prints delimiter (text ++ ", " ++ text') .moreArguments (e :: es) := by
  have same : (text ++ ", " ++ text').toList = text.toList ++ ([','] ++ (' ' :: text'.toList)) := by
    simp
  rw [Prints, same]
  refine (spells_comma first more).mono (fun _ follows => follows) ?_
  rintro _ ⟨us, comma, us', rfl, kind, holds, holds'⟩
  exact .nextArgument holds kind holds'

/-! ## Selectors -/

theorem Prints.name (name : String) : Prints delimiter (quoted name) .selector (.name name) := by
  refine (spells_quoted name).mono (fun _ _ => trivial) ?_
  rintro _ ⟨span, rfl⟩
  exact .name rfl (denotes_text _)

theorem Prints.wildcard : Prints delimiter "*" .selector .wildcard := by
  refine (spells_sign (c := '*') rfl delimiter).mono (fun _ follows => follows) ?_
  rintro _ ⟨span, rfl⟩
  exact .wildcard rfl

theorem Prints.index {value : Int} (safe : isSafeInteger value = true) :
    Prints delimiter (intText value) .selector (.index value) :=
  (spells_intText safe).mono (fun _ follows => follows)
    fun _ integer => .index (.present integer safe)

theorem spells_colon {bound : Option Int} (safe : ∀ value ∈ bound, isSafeInteger value = true)
    {text : List Char} {property : List Token → Prop} (behind : Spells delimiter text property) :
    Spells delimiter ((boundText bound).toList ++ ([':'] ++ text)) fun ts =>
      ∃ us colon us', ts = us ++ colon :: us' ∧ colon.kind = .colon ∧ Bound us bound ∧
        property us' := by
  have colon : Spells delimiter ([':'] ++ text) fun ts =>
      ∃ colon us', ts = colon :: us' ∧ colon.kind = .colon ∧ property us' := by
    refine (spells_sign rfl anything).append behind (fun _ _ => trivial) ?_
    rintro _ us' ⟨span, rfl⟩ holds
    exact ⟨_, us', rfl, rfl, holds⟩
  refine (spells_boundText safe).append colon (fun rest _ => delimiter_cons (by decide) _) ?_
  rintro us _ isBound ⟨colon, us', rfl, kind, holds⟩
  exact ⟨us, colon, us', rfl, kind, isBound, holds⟩

/-- The text of a slice has two colons, whatever bounds there are. -/
theorem Prints.slice {start stop step : Option Int}
    (safe : ∀ bound ∈ [start, stop, step], ∀ value ∈ bound, isSafeInteger value = true) :
    Prints delimiter (sliceText start stop step) .selector (.slice start stop (some (step.getD 1))) := by
  have stride : isSafeInteger (step.getD 1) = true := by
    cases step with
    | none => decide
    | some value => exact safe (some value) (by simp) value rfl
  have same : (sliceText start stop step).toList =
      (boundText start).toList ++ ([':'] ++ ((boundText stop).toList ++
        ([':'] ++ (intText (step.getD 1)).toList))) := by
    simp [sliceText]
  have second := spells_colon (safe stop (by simp)) (spells_intText stride)
  have first := spells_colon (safe start (by simp)) second
  rw [Prints, same]
  refine first.mono (fun _ follows => follows) ?_
  rintro _ ⟨us, colon, _, rfl, kind, isStart, us', colon', us'', rfl, kind', isStop, integer⟩
  exact .stridedSlice isStart kind isStop kind' (.present integer stride)

theorem Prints.filter {text : String} {condition : Expr} {term : Term}
    (expression : Prints delimiter text (.level 0) condition)
    (check : Term.filter? condition = .ok term) :
    Prints delimiter ("?" ++ text) .selector term := by
  have same : ("?" ++ text).toList = ['?'] ++ text.toList := by simp
  rw [Prints, same]
  refine (spells_sign rfl anything).append expression (fun _ _ => trivial) ?_
  rintro _ us ⟨span, rfl⟩ derives
  exact .filter rfl derives check

/-! ## Chains -/

theorem Prints.noSegments : Prints anything "" .segments [] := Spells.nil .noSegments

theorem Prints.children {follow : List Char → Prop} {text text' : String} {term : Term}
    {links : List Term} (bracket : Prints anything text .bracket term)
    (more : Prints follow text' .segments links) :
    Prints follow (text ++ text') .segments (term :: links) := by
  rw [Prints, String.toList_append]
  exact bracket.append more (fun _ _ => trivial) fun _ _ first rest => .children first rest

theorem Prints.descendants {follow : List Char → Prop} {text text' : String} {term : Term}
    {links : List Term} (bracket : Prints anything ("[" ++ text) .bracket term)
    (more : Prints follow text' .segments links) :
    Prints follow ("..[" ++ text ++ text') .segments (.descendant (.ofTerm term) :: links) := by
  have same : ("..[" ++ text ++ text').toList = '.' :: '.' :: '[' :: text.toList ++ text'.toList := by
    simp
  have same' : ("[" ++ text).toList = '[' :: text.toList := by simp
  rw [Prints, same'] at bracket
  rw [Prints, same]
  refine (Spells.dots bracket).append more (fun _ _ => trivial) ?_
  rintro _ us ⟨dots, us', rfl, kind, first⟩ rest
  exact .descendants kind first rest

theorem Prints.query {c : Char} {kind : Token.Kind} {identifier : Term} (sign : sign? c = some kind)
    (isIdentifier : identifier? kind = some identifier) (shown : identifier.text.toList = [c])
    {text : String} {links : List Term} (segments : Prints anything text .segments links) :
    Prints anything (identifier.text ++ text) .operand (.chain identifier links false) := by
  rw [Prints, String.toList_append, shown]
  refine (spells_sign sign anything).append segments (fun _ _ => trivial) ?_
  rintro _ us ⟨span, rfl⟩ derives
  exact .query isIdentifier derives

theorem Prints.root {text : String} {links : List Term} (segments : Prints anything text .segments links) :
    Prints anything (Term.root.text ++ text) .operand (.chain .root links false) :=
  .query (show sign? '$' = some .root from rfl) rfl (by simp [Term.text]) segments

theorem Prints.current {text : String} {links : List Term}
    (segments : Prints anything text .segments links) :
    Prints anything (Term.current.text ++ text) .operand (.chain .current links false) :=
  .query (show sign? '@' = some .current from rfl) rfl (by simp [Term.text]) segments

/-! ## Literals -/

theorem Prints.string (value : String) :
    Prints anything (quoted value) .operand (.ofTerm (.string value)) := by
  refine (spells_quoted value).mono (fun _ _ => trivial) ?_
  rintro _ ⟨span, rfl⟩
  exact .string rfl (denotes_text _)

theorem Prints.number {value : Number} (literal : value.IsLiteral) :
    Prints delimiter value.text .operand (.ofTerm (.number value)) := by
  obtain ⟨n, magnitude, wellFormed, isMagnitude, ⟨same, rfl⟩ | ⟨same, rfl⟩⟩ :=
    Number.exists_numeral literal
  · rw [Prints, same]
    refine (spells_numeral wellFormed isMagnitude).mono (fun _ follows => follows) ?_
    rintro _ ⟨span, rfl⟩
    exact .number rfl rfl
  · have split : '-' :: n.chars = ['-'] ++ n.chars := rfl
    rw [Prints, same, split]
    refine spells_minus.append (spells_numeral wellFormed isMagnitude) ?_ ?_
    · intro rest _
      obtain ⟨c, more, whole⟩ := List.exists_cons_of_ne_nil wellFormed.nonempty
      exact ⟨c, by simp [Numeral.chars, whole], wellFormed.whole c (by simp [whole])⟩
    · rintro _ _ ⟨span, rfl⟩ ⟨span', rfl⟩
      exact .negativeNumber rfl rfl rfl (opposite_negated magnitude)

theorem Prints.bool (value : Bool) :
    Prints delimiter (Term.text (.bool value)) .operand (.ofTerm (.bool value)) := by
  cases value with
  | false =>
      refine spells_false.mono (fun _ follows => follows) ?_
      rintro _ ⟨span, rfl⟩
      exact .keyword rfl
  | true =>
      refine spells_true.mono (fun _ follows => follows) ?_
      rintro _ ⟨span, rfl⟩
      exact .keyword rfl

theorem Prints.null : Prints delimiter (Term.text .null) .operand (.ofTerm .null) := by
  refine spells_null.mono (fun _ follows => follows) ?_
  rintro _ ⟨span, rfl⟩
  exact .keyword rfl

/-! ## Operators -/

/-- The level of the grammar on which a term stands: that of its operator or, for any other term,
    the last. -/
def Term.level : Term → Nat
  | .binary operator _ _ => rank operator - 1
  | _ => 3

/-- The grammar derives the normal form of the expression on its level. -/
def IsPhrase (e : Expr) (ts : List Token) : Prop :=
  if e.head.isBinary then Derives (.level e.head.level) ts (e.normal false)
  else Derives .operand ts (e.normal false)

theorem derives_lower {ts : List Token} {e : Expr} {low high : Nat} (le : low ≤ high)
    (derives : Derives (.level high) ts e) : Derives (.level low) ts e := by
  obtain ⟨difference, rfl⟩ := Nat.exists_eq_add_of_le le
  clear le
  induction difference with
  | zero => exact derives
  | succ difference ih => exact ih (.tighter derives)

theorem level_le (t : Term) : t.level ≤ 3 := by
  cases t with
  | binary operator left right => exact (Nat.sub_le _ _).trans (rank_le operator)
  | _ => exact le_rfl

theorem IsPhrase.level {e : Expr} {ts : List Token} (phrase : IsPhrase e ts) {least : Nat}
    (le : least ≤ e.head.level) : Derives (.level least) ts (e.normal false) := by
  unfold IsPhrase at phrase
  split at phrase
  · exact derives_lower le phrase
  · exact derives_lower (le.trans (level_le e.head)) (.operand phrase)

theorem IsPhrase.operand {e : Expr} {ts : List Token} (phrase : IsPhrase e ts)
    (single : e.head.isBinary = false) : Derives .operand ts (e.normal false) := by
  simpa [IsPhrase, single] using phrase

/-- On the lowest level there is every expression. -/
theorem prints_of_spells {e : Expr} (spells : Spells delimiter e.text.toList (IsPhrase e)) :
    Prints delimiter e.text (.level 0) (e.normal false) :=
  spells.mono (fun _ follows => follows) fun _ phrase => phrase.level (Nat.zero_le _)

theorem prints_parenthesize {e : Expr} (spells : Spells delimiter e.text.toList (IsPhrase e))
    (needed : Bool) {least : Nat} (le : least ≤ 3)
    (loose : needed = false → least ≤ e.head.level) :
    Prints delimiter (parenthesize needed e.text) (.level least) (e.normal needed) := by
  cases needed with
  | false => exact spells.mono (fun _ follows => follows) fun _ phrase => phrase.level (loose rfl)
  | true =>
      refine (prints_of_spells spells).group.mono (fun _ _ => trivial) fun _ derives => ?_
      rw [Expr.group_normal] at derives
      exact derives_lower le (.operand derives)

/-- The operand of a negation is in parentheses if it is an operator. -/
theorem prints_operand {e : Expr} (spells : Spells delimiter e.text.toList (IsPhrase e)) :
    Prints delimiter (parenthesize e.head.isBinary e.text) .operand (e.normal e.head.isBinary) := by
  cases binary : e.head.isBinary with
  | false => exact spells.mono (fun _ follows => follows) fun _ phrase => phrase.operand binary
  | true =>
      refine (prints_of_spells spells).group.mono (fun _ _ => trivial) fun _ derives => ?_
      rwa [Expr.group_normal] at derives

theorem isBinary_of_isComparable {e : Expr} (comparable : e.isComparable = true) :
    e.head.isBinary = false := by
  obtain ⟨head, links, grouped⟩ := e
  cases head <;>
    simp_all [Expr.isComparable, Expr.head, Term.isBinary, Expr.isLiteral, Term.isLiteral,
      Expr.isSingularQuery, Expr.isQuery, Term.isIdentifier]

theorem level_of_not_isBinary {t : Term} (single : t.isBinary = false) : t.level = 3 := by
  cases t <;> first | rfl | cases single

/-- A left operand without parentheses binds at least as tightly as its operator. -/
theorem level_left {operator : Operator} {left right : Expr} {term : Term}
    (check : Term.binary? operator left right = .ok term)
    (loose : operator.groupsLeft left.head = false) : rank operator - 1 ≤ left.head.level := by
  obtain ⟨_, checks⟩ := Term.binary?_eq_ok_iff.mp check
  cases comparison : operator.isComparison with
  | true =>
      rw [if_pos comparison] at checks
      rw [level_of_not_isBinary (isBinary_of_isComparable checks.1)]
      have := rank_le operator
      omega
  | false =>
      cases head : left.head with
      | binary other _ _ =>
          rw [head] at loose
          cases operator with
          | or => exact Nat.zero_le _
          | and => cases other <;> simp_all [Operator.groupsLeft, Term.isOperator, Term.level, rank]
          | _ => cases comparison
      | _ =>
          have := rank_le operator
          simp only [Term.level]
          omega

/-- A right operand without parentheses binds more tightly than its operator. -/
theorem level_right {operator : Operator} {left right : Expr} {term : Term}
    (check : Term.binary? operator left right = .ok term)
    (loose : operator.groupsRight right.head = false) : rank operator ≤ right.head.level := by
  obtain ⟨_, checks⟩ := Term.binary?_eq_ok_iff.mp check
  cases comparison : operator.isComparison with
  | true =>
      rw [if_pos comparison] at checks
      rw [level_of_not_isBinary (isBinary_of_isComparable checks.2.1)]
      exact rank_le operator
  | false =>
      cases head : right.head with
      | binary other _ _ =>
          rw [head] at loose
          cases operator with
          | or | and =>
              cases other <;> simp_all [Operator.groupsRight, Term.isOperator, Term.level, rank]
          | _ => cases comparison
      | _ => exact rank_le operator

theorem operatorAt_kindOf (operator : Operator) :
    OperatorAt (rank operator - 1) (kindOf operator) operator := by
  cases operator <;> constructor

theorem prints_operation {operator : Operator} {left right : Expr} {term : Term}
    (leftSide : Spells delimiter left.text.toList (IsPhrase left))
    (rightSide : Spells delimiter right.text.toList (IsPhrase right))
    (check : Term.binary? operator left right = .ok term) :
    Prints delimiter (Term.binary operator left right).text (.level (rank operator - 1))
      (.ofTerm (Term.binary operator left right).normal) := by
  obtain ⟨least, isRank⟩ : ∃ least, rank operator = least + 1 := by
    cases operator <;> exact ⟨_, rfl⟩
  have small := rank_le operator
  have first := prints_parenthesize leftSide (operator.groupsLeft left.head)
    (show least ≤ 3 by omega) (fun loose => by have := level_left check loose; omega)
  have second := prints_parenthesize rightSide (operator.groupsRight right.head) small
    (level_right check)
  have same : (Term.binary operator left right).text.toList =
      (parenthesize (operator.groupsLeft left.head) left.text).toList ++
        (' ' :: (operator.symbol.toList ++
          (' ' :: (parenthesize (operator.groupsRight right.head) right.text).toList))) := by
    simp [Term.text]
  have behind : Spells delimiter (operator.symbol.toList ++
      (' ' :: (parenthesize (operator.groupsRight right.head) right.text).toList)) fun ts =>
        ∃ sign us, ts = sign :: us ∧ OperatorAt (rank operator - 1) sign.kind operator ∧
          Derives (.level (rank operator)) us (right.normal (operator.groupsRight right.head)) := by
    refine (spells_symbol operator).append second.blank (fun _ _ => rfl) ?_
    rintro _ us ⟨span, rfl⟩ derives
    exact ⟨_, us, rfl, operatorAt_kindOf operator, derives⟩
  rw [Prints, same]
  refine first.append behind.blank (fun _ _ => delimiter_cons (by decide) _) ?_
  rintro ts _ derives ⟨sign, us, rfl, isOperator, derives'⟩
  rw [isRank] at derives'
  rw [isRank, Nat.add_sub_cancel] at isOperator ⊢
  exact .operation derives isOperator derives' (Term.binary?_normal check)

/-- The operand of a negation does not begin with an equals sign. -/
theorem notEquals_operand {e : Expr} (test : e.isTest = true) (rest : List Char) :
    notEquals ((parenthesize e.head.isBinary e.text).toList ++ rest) := by
  obtain ⟨head, links, grouped⟩ := e
  cases head with
  | root | current | not _ => simp [notEquals, parenthesize, Expr.head, Term.isBinary, Expr.text, Term.text]
  | binary operator left right => simp [notEquals, parenthesize, Expr.head, Term.isBinary]
  | call function arguments =>
      cases function <;>
        simp [notEquals, parenthesize, Expr.head, Term.isBinary, Expr.text, Term.text, Function.name]
  | _ => simp [Expr.isTest, Expr.head] at test

theorem prints_negation {e : Expr} {term : Term}
    (spells : Spells delimiter e.text.toList (IsPhrase e))
    (check : Term.not? e = .ok term) :
    Prints delimiter (Term.not e).text .operand (.ofTerm (Term.not e).normal) := by
  obtain ⟨test, _⟩ := Term.not?_eq_ok_iff.mp check
  have same : (Term.not e).text.toList =
      ['!'] ++ (parenthesize e.head.isBinary e.text).toList := by
    simp [Term.text]
  rw [Prints, same]
  refine spells_not.append (prints_operand spells) (fun rest _ => notEquals_operand test rest) ?_
  rintro _ us ⟨span, rfl⟩ derives
  exact .negation rfl derives (Term.not?_normal check)

/-! ## The induction over the syntax -/

theorem text_of_selects {t : Term} (selects : (t.isSelector || t.isUnion) = true) :
    t.text = "[" ++ (Expr.ofTerm t).selectorText ++ "]" := by
  cases t with
  | filter condition =>
      have question : "[?" = "[" ++ "?" := rfl
      rw [Term.text, question]
      simp only [Expr.ofTerm, Expr.selectorText, String.append_assoc]
  | name | index | wildcard | slice | child =>
      simp [Term.text, Expr.ofTerm, Expr.selectorText, String.append_assoc]
  | _ => simp [Term.isSelector, Term.isUnion] at selects

theorem normals_of_selectors {selectors : List Expr} (wf : Expr.SelectorsWellFormed selectors) :
    Expr.normals selectors = selectors.map fun e => Expr.ofTerm e.head.normal := by
  induction selectors with
  | nil => simp [Expr.normals]
  | cons e rest ih =>
      obtain ⟨head, links, grouped⟩ := e
      simp only [Expr.SelectorsWellFormed, Expr.HeldWellFormed] at wf
      obtain ⟨_, ⟨rfl, rfl, _⟩, wfRest⟩ := wf
      simp [Expr.normals, Expr.normal, Term.normals, Expr.ofTerm, Expr.head, ih wfRest]

theorem IsPhrase.of_operand {e : Expr} {ts : List Token} (single : e.head.isBinary = false)
    (derives : Derives .operand ts (e.normal false)) : IsPhrase e ts := by
  simpa [IsPhrase, single] using derives

theorem Prints.spells {follow : List Char → Prop} {head : Term} {grouped : Bool}
    (prints : Prints follow head.text .operand (.ofTerm head.normal))
    (single : head.isBinary = false) (stronger : ∀ rest, delimiter rest → follow rest) :
    Spells delimiter (Expr.chain head [] grouped).text.toList (IsPhrase (.chain head [] grouped)) := by
  have same : (Expr.chain head [] grouped).text = head.text := by simp [Expr.text, Term.texts]
  rw [same]
  refine prints.mono stronger fun _ derives => .of_operand single ?_
  rwa [Expr.normal, Term.normals]

theorem prints_arguments {arguments : List Expr}
    (more : arguments ≠ [] →
      Prints delimiter (Expr.argumentTexts arguments) .moreArguments (Expr.normals arguments)) :
    Prints delimiter (Expr.argumentTexts arguments) .arguments (Expr.normals arguments) := by
  cases arguments with
  | nil =>
      simp only [Expr.argumentTexts, Expr.normals]
      exact Spells.nil .noArguments
  | cons first rest =>
      exact (more (List.cons_ne_nil _ _)).mono (fun _ follows => follows)
        fun _ derives => .arguments derives

theorem spells_operation {operator : Operator} {left right : Expr} {grouped : Bool}
    (prints : Prints delimiter (Term.binary operator left right).text (.level (rank operator - 1))
      (.ofTerm (Term.binary operator left right).normal)) :
    Spells delimiter (Expr.chain (.binary operator left right) [] grouped).text.toList
      (IsPhrase (.chain (.binary operator left right) [] grouped)) := by
  have same : (Expr.chain (.binary operator left right) [] grouped).text =
      (Term.binary operator left right).text := by simp [Expr.text, Term.texts]
  rw [same]
  refine prints.mono (fun _ follows => follows) fun ts derives => ?_
  have phrase : Derives (.level (rank operator - 1)) ts
      ((Expr.chain (.binary operator left right) [] grouped).normal false) := by
    rw [Expr.normal, Term.normals]
    exact derives
  simpa only [IsPhrase, Expr.head_chain, Term.isBinary, Term.level, if_true] using phrase

mutual
theorem Term.prints_selector (t : Term) (selects : t.isSelector = true) (wf : t.WellFormed) :
    Prints delimiter (Expr.ofTerm t).selectorText .selector t.normal := by
  cases t with
  | name name =>
      simp only [Expr.ofTerm, Expr.selectorText, Term.normal]
      exact .name name
  | index index =>
      simp only [Expr.ofTerm, Expr.selectorText, Term.normal]
      exact .index wf
  | wildcard =>
      simp only [Expr.ofTerm, Expr.selectorText, Term.normal]
      exact .wildcard
  | slice start stop step =>
      simp only [Expr.ofTerm, Expr.selectorText, Term.normal]
      exact .slice wf
  | filter condition =>
      simp only [Term.WellFormed] at wf
      obtain ⟨⟨term, check⟩, wf⟩ := wf
      simp only [Expr.ofTerm, Expr.selectorText]
      exact (prints_of_spells (condition.spells wf)).filter (Term.filter?_normal check)
  | _ => cases selects
termination_by (sizeOf t, 0)

theorem Expr.prints_selectors (selectors : List Expr) (nonempty : selectors ≠ [])
    (wf : Expr.SelectorsWellFormed selectors) :
    Prints delimiter (Expr.selectorTexts selectors) .selectors
      (selectors.map fun e => e.head.normal) := by
  match selectors with
  | [] => exact absurd rfl nonempty
  | [.chain head links grouped] =>
      simp only [Expr.SelectorsWellFormed, Expr.HeldWellFormed, Expr.head_chain] at wf
      obtain ⟨selects, ⟨rfl, rfl, wfHead⟩, _⟩ := wf
      simp only [Expr.selectorTexts]
      exact (head.prints_selector selects wfHead).oneSelector
  | .chain head links grouped :: second :: rest =>
      simp only [Expr.SelectorsWellFormed, Expr.HeldWellFormed, Expr.head_chain] at wf
      obtain ⟨selects, ⟨rfl, rfl, wfHead⟩, wfRest⟩ := wf
      have more := Expr.prints_selectors (second :: rest) (List.cons_ne_nil _ _)
        (by simpa only [Expr.SelectorsWellFormed, Expr.HeldWellFormed] using wfRest)
      simp only [Expr.selectorTexts]
      exact (head.prints_selector selects wfHead).moreSelectors more
termination_by (sizeOf selectors, 0)

/-- What a bracket holds: a selector, or the selectors of a union. -/
theorem Term.prints_bracket (t : Term) (selects : (t.isSelector || t.isUnion) = true)
    (wf : t.WellFormed) : Prints anything t.text .bracket t.normal := by
  rw [text_of_selects selects]
  cases union : t.isUnion with
  | false =>
      have isSelector : t.isSelector = true := by simpa [union] using selects
      exact (t.prints_selector isSelector wf).oneSelector.bracket
  | true =>
      cases t with
      | child selectors =>
          simp only [Term.WellFormed] at wf
          obtain ⟨two, wfSelectors⟩ := wf
          have nonempty : selectors ≠ [] := by
            rintro rfl
            simp at two
          have inner := Expr.prints_selectors selectors nonempty wfSelectors
          have same : bracketTerm (selectors.map fun e => e.head.normal) =
              (Term.child selectors).normal := by
            rw [Term.normal, normals_of_selectors wfSelectors]
            match selectors, two with
            | first :: second :: rest, _ => simp [bracketTerm]
          simp only [Expr.ofTerm, Expr.selectorText]
          exact same ▸ inner.bracket
      | _ => cases union
termination_by (sizeOf t, 1)

theorem Term.prints_link (t : Term) (isLink : t.isLink = true) (wf : t.WellFormed) {text : String}
    {links : List Term} (more : Prints anything text .segments links) :
    Prints anything (t.text ++ text) .segments (t.normal :: links) := by
  have bracket : (t.isSelector || t.isUnion) = true → Prints anything t.text .bracket t.normal :=
    fun selects => t.prints_bracket selects wf
  cases t with
  | descendant selector =>
      cases selector with
      | chain head others grouped =>
      simp only [Term.WellFormed, Expr.HeldWellFormed, Expr.head_chain] at wf
      obtain ⟨selects, rfl, rfl, wfHead⟩ := wf
      have inner := head.prints_bracket selects wfHead
      have same : (Term.descendant (.chain head [] false)).text =
          "..[" ++ ((Expr.ofTerm head).selectorText ++ "]") := by
        simp [Term.text, Expr.ofTerm, String.append_assoc]
      rw [text_of_selects selects, String.append_assoc] at inner
      rw [same]
      exact inner.descendants more
  | _ => exact (bracket isLink).children more
termination_by (sizeOf t, 2)

theorem Term.prints_links (links : List Term) (wf : Term.LinksWellFormed links) :
    Prints anything (Term.texts links) .segments (Term.normals links) := by
  cases links with
  | nil =>
      simp only [Term.texts, Term.normals]
      exact .noSegments
  | cons term rest =>
      simp only [Term.LinksWellFormed] at wf
      obtain ⟨isLink, wfTerm, wfRest⟩ := wf
      simp only [Term.texts, Term.normals]
      exact term.prints_link isLink wfTerm (Term.prints_links rest wfRest)
termination_by (sizeOf links, 0)

theorem Expr.spells (e : Expr) (wf : e.WellFormed) :
    Spells delimiter e.text.toList (IsPhrase e) := by
  cases e with
  | chain head links grouped =>
  simp only [Expr.WellFormed] at wf
  obtain ⟨notLink, wfHead, noLinks, wfLinks⟩ := wf
  cases head with
  | root =>
      have prints := (Term.prints_links links wfLinks).root
      rw [Expr.text]
      exact prints.mono (fun _ _ => trivial) fun _ derives => .of_operand rfl derives
  | current =>
      have prints := (Term.prints_links links wfLinks).current
      rw [Expr.text]
      exact prints.mono (fun _ _ => trivial) fun _ derives => .of_operand rfl derives
  | binary operator left right =>
      obtain rfl : links = [] := by simpa [Term.isIdentifier] using noLinks
      simp only [Term.WellFormed] at wfHead
      obtain ⟨⟨term, check⟩, wfLeft, wfRight⟩ := wfHead
      exact spells_operation (prints_operation (left.spells wfLeft) (right.spells wfRight) check)
  | not operand =>
      obtain rfl : links = [] := by simpa [Term.isIdentifier] using noLinks
      simp only [Term.WellFormed] at wfHead
      obtain ⟨⟨term, check⟩, wfOperand⟩ := wfHead
      exact (prints_negation (operand.spells wfOperand) check).spells rfl fun _ follows => follows
  | call function arguments =>
      obtain rfl : links = [] := by simpa [Term.isIdentifier] using noLinks
      simp only [Term.WellFormed] at wfHead
      obtain ⟨⟨term, check⟩, wfArguments⟩ := wfHead
      have inner := prints_arguments fun nonempty =>
        Expr.prints_moreArguments arguments nonempty wfArguments
      have prints := inner.call (Term.call?_normal check)
      rw [← Term.text] at prints
      exact prints.spells rfl fun _ _ => trivial
  | string value =>
      obtain rfl : links = [] := by simpa [Term.isIdentifier] using noLinks
      have prints := Prints.string value
      rw [← Term.text, ← Term.normal] at prints
      exact prints.spells rfl fun _ _ => trivial
  | number value =>
      obtain rfl : links = [] := by simpa [Term.isIdentifier] using noLinks
      simp only [Term.WellFormed] at wfHead
      have prints := Prints.number wfHead
      rw [← Term.text, ← Term.normal] at prints
      exact prints.spells rfl fun _ follows => follows
  | bool value =>
      obtain rfl : links = [] := by simpa [Term.isIdentifier] using noLinks
      have prints := Prints.bool value
      rw [← Term.normal] at prints
      exact prints.spells rfl fun _ follows => follows
  | null =>
      obtain rfl : links = [] := by simpa [Term.isIdentifier] using noLinks
      have prints := Prints.null
      rw [← Term.normal] at prints
      exact prints.spells rfl fun _ follows => follows
  | _ => cases notLink
termination_by (sizeOf e, 0)

theorem Expr.prints_moreArguments (arguments : List Expr) (nonempty : arguments ≠ [])
    (wf : Expr.AllWellFormed arguments) :
    Prints delimiter (Expr.argumentTexts arguments) .moreArguments (Expr.normals arguments) := by
  match arguments with
  | [] => exact absurd rfl nonempty
  | [e] =>
      simp only [Expr.AllWellFormed] at wf
      simp only [Expr.argumentTexts, Expr.normals]
      exact (prints_of_spells (e.spells wf.1)).lastArgument
  | e :: second :: rest =>
      simp only [Expr.AllWellFormed] at wf
      have more := Expr.prints_moreArguments (second :: rest) (List.cons_ne_nil _ _)
        (by simpa only [Expr.AllWellFormed] using wf.2)
      simp only [Expr.argumentTexts]
      rw [Expr.normals]
      exact (prints_of_spells (e.spells wf.1)).nextArgument more
termination_by (sizeOf arguments, 0)
end

/-! ## Whole queries -/

theorem exists_text_of_isLink {t : Term} (isLink : t.isLink = true) :
    ∃ text, t.text = text ++ "]" := by
  cases t with
  | wildcard => exact ⟨"[*", by rw [Term.text]; rfl⟩
  | name | index | slice | filter | child | descendant => exact ⟨_, by rw [Term.text]⟩
  | _ => cases isLink

/-- Every segment ends with a bracket, and so do all of them together. -/
theorem getLast?_texts {links : List Term} (wf : Term.LinksWellFormed links) {c : Char}
    (last : (Term.texts links).toList.getLast? = some c) : c = ']' := by
  induction links with
  | nil => simp [Term.texts] at last
  | cons term rest ih =>
      simp only [Term.LinksWellFormed] at wf
      obtain ⟨isLink, _, wfRest⟩ := wf
      obtain ⟨text, same⟩ := exists_text_of_isLink isLink
      simp only [Term.texts, String.toList_append, List.getLast?_append, Option.or_eq_some_iff] at last
      rcases last with last | ⟨_, last⟩
      · exact ih wfRest last
      · simpa [same] using last.symm

theorem ofQuery_of_prints {follow : List Char → Prop} {text : String} {links : List Term}
    (segments : Prints follow text .segments links) (ends : follow [])
    (last : ∀ c, text.toList.getLast? = some c → Token.isBlank c = false) :
    ∃ root us eof, Token.ofQuery ("$" ++ text) = .ok (root :: (us ++ [eof])) ∧ root.kind = .root ∧
      eof.kind = .eof ∧ Derives .segments us links := by
  have same : ("$" ++ text).toList = ['$'] ++ text.toList := by simp
  have spells : Spells follow ("$" ++ text).toList fun ts =>
      ∃ root us, ts = root :: us ∧ root.kind = .root ∧ Derives .segments us links := by
    rw [same]
    refine (spells_sign rfl anything).append segments (fun _ _ => trivial) ?_
    rintro _ us ⟨span, rfl⟩ derives
    exact ⟨_, us, rfl, rfl, derives⟩
  have noneBefore : ∀ c, ("$" ++ text).toList.head? = some c → Token.isBlank c = false := by
    rw [same]
    rintro c ⟨⟩
    rfl
  have noneBehind : ∀ c, ("$" ++ text).toList.getLast? = some c → Token.isBlank c = false := by
    intro c isLast
    rw [same, List.getLast?_append, Option.or_eq_some_iff] at isLast
    rcases isLast with isLast | ⟨-, ⟨⟩⟩
    · exact last c isLast
    · rfl
  obtain ⟨_, ⟨root, us, rfl, rootKind, derives⟩, lexed⟩ := spells 0 [] ends
  refine ⟨root, us, Token.endAt (0 + ("$" ++ text).toList.length), ?_, rootKind, rfl, derives⟩
  rw [List.append_nil, tokensFrom_nil] at lexed
  rw [Token.ofQuery_eq_ok_iff, Token.ofChars_eq_tokensFrom noneBefore noneBehind, lexed]
  rfl

theorem ofQuery_text {q : Query} (wf : q.WellFormed) :
    ∃ root us eof, Token.ofQuery q.text = .ok (root :: (us ++ [eof])) ∧ root.kind = .root ∧
      eof.kind = .eof ∧ Derives .segments us (Term.normals q.links) := by
  simp only [Query.WellFormed, Query.root, Expr.WellFormed] at wf
  obtain ⟨_, _, _, wfLinks⟩ := wf
  have same : q.text = "$" ++ Term.texts q.links := by
    simp [Query.text, Query.root, Expr.text, Term.text]
  rw [same]
  refine ofQuery_of_prints (Term.prints_links q.links wfLinks) trivial fun c isLast => ?_
  obtain rfl := getLast?_texts wfLinks isLast
  rfl

/-- The normalized text of a well-formed query is read back as its normal form. -/
theorem Query.compile_text (q : Query) (wf : q.WellFormed) :
    Query.compile q.text = .ok ⟨Term.normals q.links, q.text⟩ := by
  obtain ⟨root, us, eof, lexed, rootKind, eofKind, derives⟩ := ofQuery_text wf
  have terminated : Parser.terminated q.text (root :: (us ++ [eof])) = root :: (us ++ [eof]) := by
    have last : (root :: (us ++ [eof])).getLast? = some eof :=
      List.getLast?_concat (l := root :: us)
    simp only [Parser.terminated, last, eofKind, if_true]
  rw [Query.compile, lexed]
  simp only [Query.ofTokens, terminated, query_of_derives rootKind derives eofKind]

/-- A query whose text needs an escape, a stride and parentheses that its syntax does not have. -/
def nestedQuery : Query where
  links :=
    [.child [.ofTerm (.name "it's"), .ofTerm (.slice none (some (-1)) none)],
      .descendant (.ofTerm (.filter (.ofTerm (.not (.ofTerm (.binary .and
        (.ofTerm (.binary .or (.ofTerm .current)
          (.ofTerm (.binary .lt (.ofTerm (.number (.int (-7)))) (.chain .root [.index 0] false)))))
        (.chain (.call .search [.chain .current [.name "é"] false, .ofTerm (.string "[a\n]")])
          [] true)))))))]
  source := ""

theorem Query.compile_text_nested :
    nestedQuery.WellFormed ∧
      Query.compile "$['it\\'s', :-1:1]..[?!((@ || -7 < $[0]) && search(@['é'], '[a\\n]'))]" =
        .ok ⟨[.child [.ofTerm (.name "it's"), .ofTerm (.slice none (some (-1)) (some 1))],
          .descendant (.ofTerm (.filter (.ofTerm (.not (.chain (.binary .and
            (.chain (.binary .or (.ofTerm .current)
              (.ofTerm (.binary .lt (.ofTerm (.number (.int (-7)))) (.chain .root [.index 0] false))))
              [] true)
            (.ofTerm (.call .search [.chain .current [.name "é"] false, .ofTerm (.string "[a\n]")])))
            [] true)))))],
          "$['it\\'s', :-1:1]..[?!((@ || -7 < $[0]) && search(@['é'], '[a\\n]'))]"⟩ := by
  have wf : nestedQuery.WellFormed := by
    simp [nestedQuery, Query.WellFormed, Query.root, Expr.WellFormed, Term.LinksWellFormed,
      Term.WellFormed, Expr.SelectorsWellFormed, Expr.HeldWellFormed, Expr.AllWellFormed, Expr.ofTerm,
      Term.isLink, Term.isSelector, Term.isUnion, Term.isIdentifier, Number.IsLiteral,
      Number.signedLimit]
    exact ⟨rfl, ⟨_, rfl⟩, ⟨_, rfl⟩, ⟨_, rfl⟩, ⟨⟨_, rfl⟩, ⟨_, rfl⟩, rfl⟩, ⟨_, rfl⟩⟩
  have shown : nestedQuery.text =
      "$['it\\'s', :-1:1]..[?!((@ || -7 < $[0]) && search(@['é'], '[a\\n]'))]" := by
    decide +kernel
  have read := Query.compile_text nestedQuery wf
  rw [shown] at read
  exact ⟨wf, read⟩

end JsonQuery

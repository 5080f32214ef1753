import Mathlib.Tactic
import JsonQuery.Query.Compile
import JsonQuery.Proofs.ParserSoundness
import JsonQuery.Proofs.NormalForm

/-! # The structure of queries

The types of the syntax admit terms in places where nothing can be done with them. A structured
expression has every term where it belongs: selectors and segments behind `$` and `@`, expressions
in conditions, and operands and arguments of the right type. Whatever the grammar derives is
structured, and so is every query that is read. Unlike what is well-formed, it need not have a text:
tokens can carry any number.
-/

namespace JsonQuery

/-! ## Operands, conditions and arguments -/

/-- Terms that begin what can be tested: queries, functions that give a truth value, and operators. -/
inductive Term.Testable : Term → Prop where
  | root : Testable .root
  | current : Testable .current
  | call {function : Function} {arguments : List Expr} (logical : function.returns = .logical) :
      Testable (.call function arguments)
  | binary {operator : Operator} {left right : Expr} : Testable (.binary operator left right)
  | not {operand : Expr} : Testable (.not operand)

/-- Expressions outside parentheses that have one value at most: literals, singular queries, and
    functions that give a value. -/
inductive Expr.Comparable : Expr → Prop where
  | literal {head : Term} {links : List Term} (isLiteral : head.isLiteral = true) :
      Comparable (.chain head links false)
  | query {head : Term} {links : List Term} (isIdentifier : head.isIdentifier = true)
      (singular : ∀ term ∈ links, term.isSingular = true) : Comparable (.chain head links false)
  | call {function : Function} {arguments : List Expr} {links : List Term}
      (value : function.returns = .value) : Comparable (.chain (.call function arguments) links false)

inductive Parameter.Takes : Parameter → Expr → Prop where
  | value {e : Expr} (comparable : e.Comparable) : Takes .value e
  | nodes {head : Term} {links : List Term} (isIdentifier : head.isIdentifier = true) :
      Takes .nodes (.chain head links false)

mutual
/-- Everything inside a term is where it belongs. -/
inductive Term.Structured : Term → Prop where
  | name (name : String) : Term.Structured (.name name)
  | index {value : Int} (safe : isSafeInteger value = true) : Term.Structured (.index value)
  | wildcard : Term.Structured .wildcard
  | slice {start stop step : Option Int}
      (safe : ∀ bound ∈ [start, stop, step], ∀ value ∈ bound, isSafeInteger value = true) :
      Term.Structured (.slice start stop step)
  | filter {condition : Expr} (testable : condition.head.Testable) (inner : condition.Structured) :
      Term.Structured (.filter condition)
  | child {terms : List Term} (several : 2 ≤ terms.length)
      (selectors : ∀ term ∈ terms, term.isSelector = true) (inner : ∀ term ∈ terms, term.Structured) :
      Term.Structured (.child (terms.map .ofTerm))
  | descendant {term : Term} (selects : (term.isSelector || term.isUnion) = true)
      (inner : term.Structured) : Term.Structured (.descendant (.ofTerm term))
  | comparison {operator : Operator} {left right : Expr} (compares : operator.isComparison = true)
      (leftSide : left.Comparable) (rightSide : right.Comparable) (innerLeft : left.Structured)
      (innerRight : right.Structured) : Term.Structured (.binary operator left right)
  | connective {operator : Operator} {left right : Expr} (connects : operator.isComparison = false)
      (leftSide : left.head.Testable) (rightSide : right.head.Testable)
      (innerLeft : left.Structured) (innerRight : right.Structured) :
      Term.Structured (.binary operator left right)
  | not {operand : Expr} (testable : operand.head.Testable) (inner : operand.Structured) :
      Term.Structured (.not operand)
  | call {function : Function} {arguments : List Expr}
      (taken : List.Forall₂ Parameter.Takes function.parameters arguments)
      (inner : ∀ argument ∈ arguments, argument.Structured) :
      Term.Structured (.call function arguments)
  | string (value : String) : Term.Structured (.string value)
  | number (value : Number) : Term.Structured (.number value)
  | bool (value : Bool) : Term.Structured (.bool value)
  | null : Term.Structured .null

/-- Only a query goes on behind its first term, and only with selectors and segments. -/
inductive Expr.Structured : Expr → Prop where
  | query {head : Term} {links : List Term} {grouped : Bool} (isIdentifier : head.isIdentifier = true)
      (areLinks : ∀ term ∈ links, term.isLink = true) (inner : ∀ term ∈ links, term.Structured) :
      Expr.Structured (.chain head links grouped)
  | single {head : Term} {grouped : Bool} (notLink : head.isLink = false) (inner : head.Structured) :
      Expr.Structured (.chain head [] grouped)
end

theorem Term.sizeOf_lt_descendant (term : Term) : sizeOf term < sizeOf (Term.descendant (.ofTerm term)) := by
  simp only [Term.descendant.sizeOf_spec, Expr.ofTerm, Expr.chain.sizeOf_spec]
  omega

theorem Term.sizeOf_lt_child {term : Term} {terms : List Term} (member : term ∈ terms) :
    sizeOf term < sizeOf (Term.child (terms.map .ofTerm)) := by
  have held : sizeOf (Expr.ofTerm term) < sizeOf (terms.map Expr.ofTerm) :=
    List.sizeOf_lt_of_mem (List.mem_map_of_mem member)
  simp only [Expr.ofTerm, Expr.chain.sizeOf_spec] at held
  simp only [Term.child.sizeOf_spec]
  omega

theorem Expr.testable_of_isTest {e : Expr} (test : e.isTest = true) : e.head.Testable := by
  obtain ⟨head, links, grouped⟩ := e
  cases head with
  | root => exact .root
  | current => exact .current
  | call function arguments => exact .call (by simpa [isTest, Expr.head] using test)
  | binary operator left right => exact .binary
  | not operand => exact .not
  | _ => cases test

theorem Expr.comparable_of_isComparable {e : Expr} (comparable : e.isComparable = true) :
    e.Comparable := by
  obtain ⟨head, links, grouped⟩ := e
  have isOpen := isGrouped_of_isComparable comparable
  simp only [isGrouped] at isOpen
  subst isOpen
  cases head with
  | call function arguments =>
      exact .call (by simpa [isComparable, isGrouped, Expr.head] using comparable)
  | root | current =>
      refine .query rfl ?_
      simpa [isComparable, isGrouped, isLiteral, Term.isLiteral, isSingularQuery, isQuery,
        Term.isIdentifier, Expr.head, Expr.links] using comparable
  | string _ | number _ | bool _ | null => exact .literal rfl
  | _ => cases comparable

theorem Parameter.takes_of_accepts {parameter : Parameter} {e : Expr}
    (accepts : parameter.accepts e = true) : parameter.Takes e := by
  obtain ⟨head, links, grouped⟩ := e
  cases parameter with
  | value =>
      simp only [Parameter.accepts, Bool.and_eq_true] at accepts
      exact .value (Expr.comparable_of_isComparable accepts.2)
  | nodes =>
      simp only [Parameter.accepts, Bool.and_eq_true, Bool.not_eq_true', Expr.isGrouped] at accepts
      obtain ⟨rfl, isQuery⟩ := accepts
      exact .nodes isQuery

/-! ## Terms that pass their checks -/

namespace Term

theorem Structured.filter? {condition : Expr} (inner : condition.Structured) {term : Term}
    (check : Term.filter? condition = .ok term) : term.Structured ∧ term.isSelector = true := by
  obtain ⟨test, rfl⟩ := filter?_eq_ok_iff.mp check
  exact ⟨.filter (Expr.testable_of_isTest test) inner, rfl⟩

theorem Structured.not? {operand : Expr} (inner : operand.Structured) {term : Term}
    (check : Term.not? operand = .ok term) : (Expr.ofTerm term).Structured := by
  obtain ⟨test, rfl⟩ := not?_eq_ok_iff.mp check
  exact .single rfl (.not (Expr.testable_of_isTest test) inner)

theorem Structured.binary? {operator : Operator} {left right : Expr} (innerLeft : left.Structured)
    (innerRight : right.Structured) {term : Term}
    (check : Term.binary? operator left right = .ok term) : (Expr.ofTerm term).Structured := by
  obtain ⟨rfl, checks⟩ := binary?_eq_ok_iff.mp check
  refine .single rfl ?_
  split at checks
  · next compares =>
      obtain ⟨leftSide, rightSide, _⟩ := checks
      exact .comparison compares (Expr.comparable_of_isComparable leftSide)
        (Expr.comparable_of_isComparable rightSide) innerLeft innerRight
  · next connects =>
      obtain ⟨leftSide, rightSide⟩ := checks
      exact .connective (Bool.eq_false_iff.mpr connects) (Expr.testable_of_isTest leftSide)
        (Expr.testable_of_isTest rightSide) innerLeft innerRight

theorem takes_of_firstWrongArgument {function : Function} {position : Nat}
    {parameters : List Parameter} {arguments : List Expr}
    (taken : firstWrongArgument function position parameters arguments = none)
    (arity : parameters.length = arguments.length) :
    List.Forall₂ Parameter.Takes parameters arguments := by
  induction parameters generalizing position arguments with
  | nil =>
      obtain rfl := List.length_eq_zero_iff.mp arity.symm
      exact .nil
  | cons parameter parameters ih =>
      cases arguments with
      | nil => cases arity
      | cons argument rest =>
          rw [firstWrongArgument] at taken
          split at taken
          · next accepts =>
              exact .cons (Parameter.takes_of_accepts accepts) (ih taken (Nat.succ.inj arity))
          · cases taken

theorem Structured.call? {function : Function} {arguments : List Expr}
    (inner : ∀ argument ∈ arguments, argument.Structured) {term : Term}
    (check : Term.call? function arguments = .ok term) : (Expr.ofTerm term).Structured := by
  rw [Term.call?] at check
  split at check
  · cases check
  · next notMany =>
      split at check
      · cases check
      · next notFew =>
          split at check
          · cases check
          · next taken =>
              cases check
              have arity : function.parameters.length = arguments.length := by omega
              exact .single rfl (.call (takes_of_firstWrongArgument taken arity) inner)

end Term

/-! ## Phrases of the grammar -/

namespace Parser

/-- What is demanded of the meaning of a phrase. -/
def Phrase.Structured : (phrase : Phrase) → phrase.Result → Prop
  | .segments, links => ∀ term ∈ links, term.isLink = true ∧ term.Structured
  | .bracket, term => (term.isSelector || term.isUnion) = true ∧ term.Structured
  | .selectors, terms => ∀ term ∈ terms, term.isSelector = true ∧ term.Structured
  | .selector, term => term.Structured ∧ term.isSelector = true
  | .level _, e | .operand, e => e.Structured
  | .arguments, es | .moreArguments, es => ∀ e ∈ es, e.Structured

theorem isLink_of_selects {term : Term} (selects : (term.isSelector || term.isUnion) = true) :
    term.isLink = true := by
  cases term <;> first | rfl | cases selects

theorem Shorthand.structured {t : Token} {term : Term} (shorthand : Shorthand t term) :
    term.isSelector = true ∧ term.Structured := by
  cases shorthand with
  | name => exact ⟨rfl, .name _⟩
  | star => exact ⟨rfl, .wildcard⟩

theorem safe_of_bound {ts : List Token} {bound : Option Int} (isBound : Bound ts bound) :
    ∀ value ∈ bound, isSafeInteger value = true := by
  cases isBound with
  | absent => simp
  | present integer safe => simpa using safe

theorem Derives.structured {phrase : Phrase} {ts : List Token} {result : phrase.Result}
    (derives : Derives phrase ts result) : phrase.Structured result := by
  induction derives with
  | noSegments =>
      intro term member
      cases member
  | child dotKind shorthand _ more =>
      obtain ⟨isSelector, inner⟩ := shorthand.structured
      refine List.forall_mem_cons.mpr ⟨⟨isLink_of_selects ?_, inner⟩, more⟩
      rw [isSelector]
      rfl
  | descendant dotsKind shorthand _ more =>
      obtain ⟨isSelector, inner⟩ := shorthand.structured
      refine List.forall_mem_cons.mpr ⟨⟨rfl, .descendant ?_ inner⟩, more⟩
      rw [isSelector]
      rfl
  | children _ _ bracket more =>
      exact List.forall_mem_cons.mpr ⟨⟨isLink_of_selects bracket.1, bracket.2⟩, more⟩
  | descendants _ _ _ bracket more =>
      exact List.forall_mem_cons.mpr ⟨⟨rfl, .descendant bracket.1 bracket.2⟩, more⟩
  | alone _ _ _ selectors =>
      obtain ⟨isSelector, inner⟩ := selectors _ List.mem_cons_self
      exact ⟨Bool.or_eq_true_iff.mpr (.inl isSelector), inner⟩
  | several _ _ many _ selectors =>
      exact ⟨rfl, .child many (fun term member => (selectors term member).1)
        fun term member => (selectors term member).2⟩
  | oneSelector _ selector =>
      exact List.forall_mem_singleton.mpr ⟨selector.2, selector.1⟩
  | moreSelectors _ _ _ selector more =>
      exact List.forall_mem_cons.mpr ⟨⟨selector.2, selector.1⟩, more⟩
  | name => exact ⟨.name _, rfl⟩
  | wildcard => exact ⟨.wildcard, rfl⟩
  | filter _ _ check condition => exact Term.Structured.filter? condition check
  | index bound => exact ⟨.index (isSafeInteger_of_bound bound), rfl⟩
  | slice startBound _ stopBound =>
      refine ⟨.slice ?_, rfl⟩
      simp only [List.forall_mem_cons]
      exact ⟨safe_of_bound startBound, safe_of_bound stopBound, by simp, by simp⟩
  | stridedSlice startBound _ stopBound _ stepBound =>
      refine ⟨.slice ?_, rfl⟩
      simp only [List.forall_mem_cons]
      exact ⟨safe_of_bound startBound, safe_of_bound stopBound, safe_of_bound stepBound, by simp⟩
  | operand _ operand => exact operand
  | tighter _ expression => exact expression
  | operation _ _ _ check left right => exact Term.Structured.binary? left right check
  | group _ _ _ expression =>
      cases expression with
      | query isIdentifier areLinks inner => exact .query isIdentifier areLinks inner
      | single notLink inner => exact .single notLink inner
  | negation _ _ check operand => exact Term.Structured.not? operand check
  | @query sign _ identifier _ kind _ links =>
      have isIdentifier : identifier.isIdentifier = true := by
        cases signKind : sign.kind <;> rw [signKind] at kind <;> cases kind <;> rfl
      exact .query isIdentifier (fun term member => (links term member).1)
        (fun term member => (links term member).2)
  | string => exact .single rfl (.string _)
  | number => exact .single rfl (.number _)
  | negativeNumber => exact .single rfl (.number _)
  | @keyword t term kind =>
      cases wordKind : t.kind <;> rw [wordKind] at kind <;> cases kind
      · exact .single rfl (.bool true)
      · exact .single rfl (.bool false)
      · exact .single rfl .null
  | call _ _ _ _ _ check inner => exact Term.Structured.call? inner check
  | noArguments =>
      intro e member
      cases member
  | arguments _ more => exact more
  | lastArgument _ expression => exact List.forall_mem_singleton.mpr expression
  | nextArgument _ _ _ expression more => exact List.forall_mem_cons.mpr ⟨expression, more⟩

end Parser

theorem Query.derives_of_ofTokens {source : String} {ts : List Token} {q : Query}
    (ok : Query.ofTokens source ts = .ok q) :
    q.source = source ∧ Parser.DerivesQuery (Parser.beforeEnd ts) q.links := by
  rw [Query.ofTokens] at ok
  split at ok
  · next links isLinks =>
      cases ok
      rw [← Parser.beforeEnd_terminated source]
      exact ⟨rfl, Parser.query_eq_ok_iff.mp isLinks⟩
  · cases ok

theorem Query.structured_of_ofTokens {source : String} {ts : List Token} {q : Query}
    (ok : Query.ofTokens source ts = .ok q) : q.root.Structured := by
  obtain ⟨_, derives⟩ := derives_of_ofTokens ok
  generalize Parser.beforeEnd ts = before at derives
  generalize isLinks : q.links = links at derives
  cases derives with
  | query _ segments =>
      subst isLinks
      exact .query rfl (fun term member => (segments.structured term member).1)
        (fun term member => (segments.structured term member).2)

theorem Query.compile_eq_ok_iff {source : String} {q : Query} :
    Query.compile source = .ok q ↔
      ∃ ts, Token.ofQuery source = .ok ts ∧ Query.ofTokens source ts = .ok q := by
  rw [Query.compile]
  cases Token.ofQuery source with
  | ok ts => simp only [Except.ok.injEq, exists_eq_left']
  | error diagnostic => simp only [reduceCtorEq, false_and, exists_false]

theorem Query.structured_of_compile {source : String} {q : Query}
    (ok : Query.compile source = .ok q) : q.root.Structured := by
  obtain ⟨_, _, parsed⟩ := compile_eq_ok_iff.mp ok
  exact structured_of_ofTokens parsed

end JsonQuery

import JsonQuery.Proofs.ParserFailures
import JsonQuery.Proofs.PrintedQueries
import JsonQuery.Proofs.Structure

/-! # Compiled queries

The numbers of a text have a text again. So whatever is read from a text is well-formed, its
normalized text is read as its normal form, and two compiled queries with one normalized text have
one normal form.
-/

namespace JsonQuery

namespace Parser

/-! ## Well-formed phrases -/

theorem isLiteral_of_foldable {value : Number} (foldable : Foldable value) :
    value.IsLiteral ∧ (negated value).IsLiteral := by
  cases value with
  | float value => exact ⟨trivial, trivial⟩
  | int value =>
      obtain ⟨nonneg, small, same⟩ := foldable
      rw [same]
      simp only [Number.IsLiteral, Number.signedLimit] at small ⊢
      omega

/-- What is demanded of the meaning of a phrase that has a text. -/
def Phrase.WellFormed : (phrase : Phrase) → phrase.Result → Prop
  | .segments, links => Term.LinksWellFormed links
  | .bracket, term => (term.isSelector || term.isUnion) = true ∧ term.WellFormed
  | .selectors, terms => ∀ term ∈ terms, term.isSelector = true ∧ term.WellFormed
  | .selector, term => term.isSelector = true ∧ term.WellFormed
  | .level _, e | .operand, e => e.WellFormed
  | .arguments, es | .moreArguments, es => Expr.AllWellFormed es

theorem Shorthand.wellFormed {t : Token} {term : Term} (shorthand : Shorthand t term) :
    term.isSelector = true ∧ term.WellFormed := by
  cases shorthand with
  | name kind => exact ⟨rfl, by rw [Term.WellFormed]; trivial⟩
  | star kind => exact ⟨rfl, by rw [Term.WellFormed]; trivial⟩

theorem wellFormed_ofTerm {term : Term} (notLink : term.isLink = false) (wf : term.WellFormed) :
    (Expr.ofTerm term).WellFormed := by
  simp only [Expr.ofTerm, Expr.WellFormed, Term.LinksWellFormed]
  exact ⟨notLink, wf, .inr trivial, trivial⟩

theorem held_ofTerm {term : Term} (wf : term.WellFormed) : (Expr.ofTerm term).HeldWellFormed := by
  simp only [Expr.ofTerm, Expr.HeldWellFormed]
  exact ⟨trivial, trivial, wf⟩

theorem wellFormed_link {term : Term} {links : List Term} (isLink : term.isLink = true)
    (wf : term.WellFormed) (more : Term.LinksWellFormed links) :
    Term.LinksWellFormed (term :: links) := by
  rw [Term.LinksWellFormed]
  exact ⟨isLink, wf, more⟩

theorem wellFormed_descendant {term : Term} (selects : (term.isSelector || term.isUnion) = true)
    (wf : term.WellFormed) : (Term.descendant (.ofTerm term)).WellFormed := by
  rw [Term.WellFormed]
  exact ⟨selects, held_ofTerm wf⟩

theorem selectorsWellFormed {terms : List Term}
    (selectors : ∀ term ∈ terms, term.isSelector = true ∧ term.WellFormed) :
    Expr.SelectorsWellFormed (terms.map .ofTerm) := by
  induction terms with
  | nil => trivial
  | cons term rest ih =>
      obtain ⟨⟨isSelector, wf⟩, others⟩ := List.forall_mem_cons.mp selectors
      rw [List.map_cons, Expr.SelectorsWellFormed]
      exact ⟨isSelector, held_ofTerm wf, ih others⟩

theorem eq_of_call? {function : Function} {arguments : List Expr} {term : Term}
    (check : Term.call? function arguments = .ok term) : term = .call function arguments := by
  unfold Term.call? at check
  split at check
  · cases check
  split at check
  · cases check
  split at check
  · cases check
  · cases check
    rfl

/-- The numbers that the tokens carry have no sign. -/
def Unsigned (ts : List Token) : Prop :=
  ∀ t ∈ ts, ∀ value, t.literal = some (.number value) → Foldable value

namespace Unsigned

variable {t : Token} {ts us : List Token}

theorem tail (unsigned : Unsigned (t :: ts)) : Unsigned ts :=
  fun u member => unsigned u (List.mem_cons_of_mem t member)

theorem left (unsigned : Unsigned (ts ++ us)) : Unsigned ts :=
  fun u member => unsigned u (List.mem_append_left us member)

theorem right (unsigned : Unsigned (ts ++ us)) : Unsigned us :=
  fun u member => unsigned u (List.mem_append_right ts member)

end Unsigned

/-- Whatever the grammar derives from tokens of a text is well-formed. -/
theorem Derives.wellFormed {phrase : Phrase} {ts : List Token} {result : phrase.Result}
    (derives : Derives phrase ts result) (unsigned : Unsigned ts) : phrase.WellFormed result := by
  induction derives with
  | noSegments => trivial
  | child dotKind shorthand _ more =>
      obtain ⟨isSelector, wf⟩ := shorthand.wellFormed
      apply wellFormed_link _ wf (more unsigned.tail.tail)
      apply isLink_of_selects
      rw [isSelector]
      rfl
  | descendant dotsKind shorthand _ more =>
      obtain ⟨isSelector, wf⟩ := shorthand.wellFormed
      apply wellFormed_link rfl _ (more unsigned.tail.tail)
      apply wellFormed_descendant _ wf
      rw [isSelector]
      rfl
  | children _ _ bracket more =>
      obtain ⟨selects, wf⟩ := bracket unsigned.left
      exact wellFormed_link (isLink_of_selects selects) wf (more unsigned.right)
  | descendants _ _ _ bracket more =>
      obtain ⟨selects, wf⟩ := bracket unsigned.tail.left
      exact wellFormed_link rfl (wellFormed_descendant selects wf) (more unsigned.tail.right)
  | alone _ _ _ selectors =>
      obtain ⟨isSelector, wf⟩ := selectors unsigned.tail.left _ List.mem_cons_self
      exact ⟨Bool.or_eq_true_iff.mpr (.inl isSelector), wf⟩
  | several _ _ many _ selectors =>
      refine ⟨rfl, ?_⟩
      rw [Term.WellFormed]
      exact ⟨by simpa using many, selectorsWellFormed (selectors unsigned.tail.left)⟩
  | oneSelector _ selector =>
      exact List.forall_mem_singleton.mpr (selector unsigned)
  | moreSelectors _ _ _ selector more =>
      exact List.forall_mem_cons.mpr ⟨selector unsigned.left, more unsigned.right.tail⟩
  | name => exact ⟨rfl, by rw [Term.WellFormed]; trivial⟩
  | wildcard => exact ⟨rfl, by rw [Term.WellFormed]; trivial⟩
  | filter _ _ check condition =>
      obtain ⟨_, rfl⟩ := Term.filter?_eq_ok_iff.mp check
      refine ⟨rfl, ?_⟩
      rw [Term.WellFormed]
      exact ⟨⟨_, check⟩, condition unsigned.tail⟩
  | index bound =>
      refine ⟨rfl, ?_⟩
      rw [Term.WellFormed]
      exact isSafeInteger_of_bound bound
  | slice startBound _ stopBound =>
      refine ⟨rfl, ?_⟩
      rw [Term.WellFormed]
      simp only [List.forall_mem_cons]
      exact ⟨safe_of_bound startBound, safe_of_bound stopBound, by simp, by simp⟩
  | stridedSlice startBound _ stopBound _ stepBound =>
      refine ⟨rfl, ?_⟩
      rw [Term.WellFormed]
      simp only [List.forall_mem_cons]
      exact ⟨safe_of_bound startBound, safe_of_bound stopBound, safe_of_bound stepBound, by simp⟩
  | operand _ operand => exact operand unsigned
  | tighter _ expression => exact expression unsigned
  | operation _ _ _ check left right =>
      obtain ⟨rfl, _⟩ := Term.binary?_eq_ok_iff.mp check
      apply wellFormed_ofTerm rfl
      rw [Term.WellFormed]
      exact ⟨⟨_, check⟩, left unsigned.left, right unsigned.right.tail⟩
  | @group opening closing ts e _ _ _ expression =>
      have wf := expression unsigned.tail.left
      obtain ⟨head, links, grouped⟩ := e
      simp only [Phrase.WellFormed, Expr.group, Expr.WellFormed] at wf ⊢
      exact wf
  | negation _ _ check operand =>
      obtain ⟨_, rfl⟩ := Term.not?_eq_ok_iff.mp check
      apply wellFormed_ofTerm rfl
      rw [Term.WellFormed]
      exact ⟨⟨_, check⟩, operand unsigned.tail⟩
  | @query sign _ identifier _ kind _ links =>
      have wf := links unsigned.tail
      cases signKind : sign.kind <;> rw [signKind] at kind <;> cases kind <;>
        exact ⟨rfl, trivial, .inl rfl, wf⟩
  | string =>
      apply wellFormed_ofTerm rfl
      rw [Term.WellFormed]
      trivial
  | number kind literal =>
      apply wellFormed_ofTerm rfl
      rw [Term.WellFormed]
      exact (isLiteral_of_foldable (unsigned _ List.mem_cons_self _ literal)).1
  | negativeNumber sign kind literal isOpposite =>
      apply wellFormed_ofTerm rfl
      rw [Term.WellFormed, ← isOpposite.negated_eq]
      exact (isLiteral_of_foldable (unsigned.tail _ List.mem_cons_self _ literal)).2
  | @keyword t term kind =>
      cases wordKind : t.kind <;> rw [wordKind] at kind <;> cases kind <;>
        exact wellFormed_ofTerm rfl (by rw [Term.WellFormed]; trivial)
  | call _ _ _ _ _ check inner =>
      obtain rfl := eq_of_call? check
      apply wellFormed_ofTerm rfl
      rw [Term.WellFormed]
      exact ⟨⟨_, check⟩, inner unsigned.tail.tail.left⟩
  | noArguments => trivial
  | arguments _ more => exact more unsigned
  | lastArgument _ expression =>
      simp only [Phrase.WellFormed, Expr.AllWellFormed]
      exact ⟨expression unsigned, trivial⟩
  | nextArgument _ _ _ expression more =>
      simp only [Phrase.WellFormed, Expr.AllWellFormed]
      exact ⟨expression unsigned.left, more unsigned.right.tail⟩

end Parser

namespace Query

theorem exists_tokens {source : String} {q : Query} (ok : compile source = .ok q) :
    ∃ ts, Token.ofQuery source = .ok ts ∧ q.source = source ∧
      Parser.DerivesQuery (Parser.beforeEnd ts) q.links := by
  obtain ⟨ts, read, parsed⟩ := compile_eq_ok_iff.mp ok
  exact ⟨ts, read, derives_of_ofTokens parsed⟩

theorem compile_of_derives {source : String} {root eof : Token} {us : List Token} {links : List Term}
    (read : Token.ofQuery source = .ok (root :: (us ++ [eof]))) (rootKind : root.kind = .root)
    (derives : Parser.Derives .segments us links) (eofKind : eof.kind = .eof) :
    compile source = .ok ⟨links, source⟩ := by
  have last : (root :: (us ++ [eof])).getLast? = some eof := List.getLast?_concat (l := root :: us)
  have terminated : Parser.terminated source (root :: (us ++ [eof])) = root :: (us ++ [eof]) := by
    simp only [Parser.terminated, last, eofKind, if_true]
  rw [compile, read]
  simp only [ofTokens, terminated, Parser.query_of_derives rootKind derives eofKind]

theorem compile_of_prints {follow : List Char → Prop} {text : String} {links : List Term}
    (segments : Prints follow text .segments links) (ends : follow [])
    (last : ∀ c, text.toList.getLast? = some c → Token.isBlank c = false) :
    compile ("$" ++ text) = .ok ⟨links, "$" ++ text⟩ := by
  obtain ⟨root, us, eof, read, rootKind, eofKind, derives⟩ := ofQuery_of_prints segments ends last
  exact compile_of_derives read rootKind derives eofKind

theorem wellFormed_of_compile {source : String} {q : Query} (ok : compile source = .ok q) :
    q.WellFormed := by
  obtain ⟨ts, read, _, derives⟩ := exists_tokens ok
  have suited := Token.suited_of_ofQuery read
  have unsigned : Parser.Unsigned (Parser.beforeEnd ts) := by
    intro t member value literal
    have carries := suited.carried t ((List.takeWhile_prefix _).subset member)
    rw [literal] at carries
    exact Parser.foldable_of_carries carries
  generalize Parser.beforeEnd ts = before at derives unsigned
  cases derives with
  | query kind segments =>
      have wf := segments.wellFormed unsigned.tail
      simp only [Query.WellFormed, Query.root, Expr.WellFormed]
      exact ⟨rfl, trivial, .inl rfl, wf⟩

/-- The normalized text of a query determines its normal form. -/
theorem normals_of_text {p q : Query} (wf : p.WellFormed) (wf' : q.WellFormed)
    (same : p.text = q.text) : Term.normals p.links = Term.normals q.links := by
  obtain ⟨root, us, eof, read, rootKind, eofKind, derives⟩ := ofQuery_text wf
  obtain ⟨root', us', eof', read', rootKind', eofKind', derives'⟩ := ofQuery_text wf'
  rw [same] at read
  have tokens : root' :: (us' ++ [eof']) = root :: (us ++ [eof]) :=
    Except.ok.inj (read'.symm.trans read)
  obtain ⟨rfl, more⟩ := List.cons.inj tokens
  obtain ⟨rfl, last⟩ := List.append_inj' more rfl
  have found := Parser.query_of_derives rootKind derives eofKind
  have found' := Parser.query_of_derives rootKind derives' eofKind
  exact Except.ok.inj (found.symm.trans found')

end Query

end JsonQuery

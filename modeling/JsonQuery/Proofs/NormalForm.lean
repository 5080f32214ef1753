import Mathlib.Tactic
import JsonQuery.Query
import JsonQuery.Syntax.Checked
import JsonQuery.Proofs.PrintedNumbers

/-! # Well-formed expressions and their normal form

The types of the syntax admit chains that no text stands for. A well-formed expression has terms only
where they belong, and each passes its check. Its normal form is what its text is read back as.
-/

namespace JsonQuery

namespace Term

/-- Several selectors in one pair of brackets. -/
def isUnion : Term → Bool
  | .child _ => true
  | _ => false

/-- What may stand in a chain behind its head. -/
def isLink : Term → Bool
  | .descendant _ => true
  | t => t.isSelector || t.isUnion

/-- A selector applied to all nodes below. -/
def isDescendant : Term → Bool
  | .descendant _ => true
  | _ => false

end Term

mutual
/-- A term passes its check, and so does everything in it. -/
def Term.WellFormed : Term → Prop
  | .index value => isSafeInteger value = true
  | .slice start stop step => ∀ bound ∈ [start, stop, step], ∀ value ∈ bound, isSafeInteger value = true
  | .filter condition => (∃ term, Term.filter? condition = .ok term) ∧ condition.WellFormed
  | .child selectors => 2 ≤ selectors.length ∧ Expr.SelectorsWellFormed selectors
  | .descendant selector =>
      (selector.head.isSelector || selector.head.isUnion) = true ∧ selector.HeldWellFormed
  | .binary operator left right =>
      (∃ term, Term.binary? operator left right = .ok term) ∧ left.WellFormed ∧ right.WellFormed
  | .not operand => (∃ term, Term.not? operand = .ok term) ∧ operand.WellFormed
  | .call function arguments =>
      (∃ term, Term.call? function arguments = .ok term) ∧ Expr.AllWellFormed arguments
  | .number value => value.IsLiteral
  | .root | .current | .name _ | .wildcard | .string _ | .bool _ | .null => True

/-- All terms behind the head of a chain are selectors and segments. -/
def Term.LinksWellFormed : List Term → Prop
  | [] => True
  | term :: rest => term.isLink = true ∧ term.WellFormed ∧ Term.LinksWellFormed rest

/-- Only queries have terms behind their head, and no selector or segment is one. -/
def Expr.WellFormed : Expr → Prop
  | .chain head links _ =>
      head.isLink = false ∧ head.WellFormed ∧ (head.isIdentifier = true ∨ links = []) ∧
        Term.LinksWellFormed links

def Expr.AllWellFormed : List Expr → Prop
  | [] => True
  | e :: rest => e.WellFormed ∧ Expr.AllWellFormed rest

/-- A term that another one holds stands by itself and without parentheses. -/
def Expr.HeldWellFormed : Expr → Prop
  | .chain head links grouped => links = [] ∧ grouped = false ∧ head.WellFormed

/-- All expressions are selectors that another term holds. -/
def Expr.SelectorsWellFormed : List Expr → Prop
  | [] => True
  | e :: rest => e.head.isSelector = true ∧ e.HeldWellFormed ∧ Expr.SelectorsWellFormed rest
end

theorem Term.linksWellFormed_iff (links : List Term) :
    Term.LinksWellFormed links ↔ ∀ term ∈ links, term.isLink = true ∧ term.WellFormed := by
  induction links with
  | nil => simp [Term.LinksWellFormed]
  | cons term rest ih => simp [Term.LinksWellFormed, ih, and_assoc]

theorem Expr.isSelector_of_selectorsWellFormed {selectors : List Expr}
    (wf : Expr.SelectorsWellFormed selectors) :
    ∀ selector ∈ selectors, selector.head.isSelector = true := by
  induction selectors with
  | nil => simp
  | cons selector rest ih =>
      rw [Expr.SelectorsWellFormed] at wf
      exact List.forall_mem_cons.mpr ⟨wf.1, ih wf.2.2⟩

def Query.WellFormed (q : Query) : Prop := q.root.WellFormed

theorem Query.wellFormed_iff (q : Query) :
    q.WellFormed ↔ ∀ term ∈ q.links, term.isLink = true ∧ term.WellFormed := by
  simp [Query.WellFormed, Query.root, Expr.WellFormed, Term.linksWellFormed_iff, Term.isLink,
    Term.isSelector, Term.isUnion, Term.isIdentifier, Term.WellFormed]

mutual
/-- The same term with a stride in every slice and parentheses where the text has them. -/
def Term.normal : Term → Term
  | .slice start stop step => .slice start stop (some (step.getD 1))
  | .filter condition => .filter (condition.normal false)
  | .child selectors => .child (Expr.normals selectors)
  | .descendant selector => .descendant (selector.normal false)
  | .binary operator left right =>
      .binary operator (left.normal (operator.groupsLeft left.head))
        (right.normal (operator.groupsRight right.head))
  | .not operand => .not (operand.normal operand.head.isBinary)
  | .call function arguments => .call function (Expr.normals arguments)
  | .root => .root
  | .current => .current
  | .name name => .name name
  | .index index => .index index
  | .wildcard => .wildcard
  | .string value => .string value
  | .number value => .number value
  | .bool value => .bool value
  | .null => .null

def Term.normals : List Term → List Term
  | [] => []
  | term :: rest => term.normal :: Term.normals rest

/-- The normal form of an expression that stands in parentheses or not. -/
def Expr.normal (grouped : Bool) : Expr → Expr
  | .chain head links _ => .chain head.normal (Term.normals links) grouped

/-- The normal forms of expressions without parentheses. -/
def Expr.normals : List Expr → List Expr
  | [] => []
  | e :: rest => e.normal false :: Expr.normals rest
end

attribute [grind =] Term.normal Term.normals Expr.normal Expr.normals

/-! ## What the normal form keeps -/

@[simp] theorem Term.isSingular_normal (t : Term) : t.normal.isSingular = t.isSingular := by
  cases t <;> simp [Term.normal, Term.isSingular]

@[simp] theorem Term.isIdentifier_normal (t : Term) : t.normal.isIdentifier = t.isIdentifier := by
  cases t <;> simp [Term.normal, Term.isIdentifier]

@[simp] theorem Term.isLiteral_normal (t : Term) : t.normal.isLiteral = t.isLiteral := by
  cases t <;> simp [Term.normal, Term.isLiteral]

@[simp] theorem Term.isBool_normal (t : Term) : t.normal.isBool = t.isBool := by
  cases t <;> simp [Term.normal, Term.isBool]

@[simp] theorem Expr.head_chain (head : Term) (links : List Term) (grouped : Bool) :
    (Expr.chain head links grouped).head = head := rfl

@[simp] theorem Expr.head_normal (e : Expr) (grouped : Bool) :
    (e.normal grouped).head = e.head.normal := by
  cases e
  simp [Expr.normal, Expr.head]

@[simp] theorem Expr.links_normal (e : Expr) (grouped : Bool) :
    (e.normal grouped).links = Term.normals e.links := by
  cases e
  simp [Expr.normal, Expr.links]

@[simp] theorem Expr.isGrouped_normal (e : Expr) (grouped : Bool) :
    (e.normal grouped).isGrouped = grouped := by
  cases e
  simp [Expr.normal, Expr.isGrouped]

theorem Expr.group_normal (e : Expr) (grouped : Bool) : (e.normal grouped).group = e.normal true := by
  cases e
  simp [Expr.normal, Expr.group]

theorem Term.all_isSingular_normals (links : List Term) :
    (Term.normals links).all Term.isSingular = links.all Term.isSingular := by
  induction links with
  | nil => simp [Term.normals]
  | cons term rest ih => simp [Term.normals, ih]

theorem Expr.length_normals (es : List Expr) : (Expr.normals es).length = es.length := by
  induction es with
  | nil => simp [Expr.normals]
  | cons e rest ih => simp [Expr.normals, ih]

@[simp] theorem Expr.isQuery_normal (e : Expr) (grouped : Bool) :
    (e.normal grouped).isQuery = e.isQuery := by
  simp [Expr.isQuery]

@[simp] theorem Expr.isTest_normal (e : Expr) (grouped : Bool) :
    (e.normal grouped).isTest = e.isTest := by
  obtain ⟨head, links, _⟩ := e
  cases head <;> simp [Expr.normal, Term.normal, Expr.isTest, Expr.head]

theorem Expr.isComparable_normal {e : Expr} (open' : e.isGrouped = false) :
    (e.normal false).isComparable = e.isComparable := by
  obtain ⟨head, links, grouped⟩ := e
  simp only [Expr.isGrouped] at open'
  subst open'
  have singular := Term.all_isSingular_normals links
  cases head <;>
    simp [Expr.normal, Term.normal, Expr.isComparable, Expr.isGrouped, Expr.head, Expr.isLiteral,
      Term.isLiteral, Expr.isSingularQuery, Expr.isQuery, Term.isIdentifier, Expr.links, singular]

/-! ## Checks -/

theorem Expr.isGrouped_of_isComparable {e : Expr} (comparable : e.isComparable = true) :
    e.isGrouped = false := by
  simp only [Expr.isComparable, Bool.and_eq_true, Bool.not_eq_true'] at comparable
  exact comparable.1

theorem Term.binary?_eq_ok_iff {operator : Operator} {left right : Expr} {term : Term} :
    Term.binary? operator left right = .ok term ↔
      term = .binary operator left right ∧
        (if operator.isComparison then
          left.isComparable = true ∧ right.isComparable = true ∧
            ¬(left.head.isBool = true ∧ right.head.isBool = true)
        else left.isTest = true ∧ right.isTest = true) := by
  unfold Term.binary? Term.comparison? Term.logical?
  constructor
  · intro ok
    split_ifs at ok <;> simp_all
  · rintro ⟨rfl, checks⟩
    split_ifs at checks ⊢ <;> simp_all

/-- The operands of a well-formed operator pass its check in normal form as well. -/
theorem Term.binary?_normal {operator : Operator} {left right : Expr} {term : Term}
    (check : Term.binary? operator left right = .ok term) :
    Term.binary? operator (left.normal (operator.groupsLeft left.head))
        (right.normal (operator.groupsRight right.head)) =
      .ok (Term.binary operator left right).normal := by
  obtain ⟨_, checks⟩ := Term.binary?_eq_ok_iff.mp check
  refine Term.binary?_eq_ok_iff.mpr ⟨by simp [Term.normal], ?_⟩
  cases comparison : operator.isComparison with
  | false => simpa [comparison] using checks
  | true =>
      simp only [comparison, if_true] at checks ⊢
      obtain ⟨leftSide, rightSide, constant⟩ := checks
      have leftOpen : operator.groupsLeft left.head = false := by
        cases operator <;> simp_all [Operator.isComparison, Operator.groupsLeft]
      have rightOpen : operator.groupsRight right.head = false := by
        cases operator <;> simp_all [Operator.isComparison, Operator.groupsRight]
      rw [leftOpen, rightOpen, Expr.isComparable_normal (Expr.isGrouped_of_isComparable leftSide),
        Expr.isComparable_normal (Expr.isGrouped_of_isComparable rightSide)]
      exact ⟨leftSide, rightSide, by simpa using constant⟩

theorem Term.not?_normal {operand : Expr} {term : Term} (check : Term.not? operand = .ok term) :
    Term.not? (operand.normal operand.head.isBinary) = .ok (Term.not operand).normal := by
  obtain ⟨test, _⟩ := Term.not?_eq_ok_iff.mp check
  exact Term.not?_eq_ok_iff.mpr ⟨by simpa using test, by simp [Term.normal]⟩

theorem Term.filter?_normal {condition : Expr} {term : Term}
    (check : Term.filter? condition = .ok term) :
    Term.filter? (condition.normal false) = .ok (Term.filter condition).normal := by
  obtain ⟨test, _⟩ := Term.filter?_eq_ok_iff.mp check
  exact Term.filter?_eq_ok_iff.mpr ⟨by simpa using test, by simp [Term.normal]⟩

theorem Parameter.accepts_normal {parameter : Parameter} {argument : Expr}
    (accepts : parameter.accepts argument = true) :
    parameter.accepts (argument.normal false) = true := by
  cases parameter with
  | value =>
      simp only [Parameter.accepts, Bool.and_eq_true, Bool.not_eq_true'] at accepts ⊢
      exact ⟨by simp, (Expr.isComparable_normal accepts.1).trans accepts.2⟩
  | nodes =>
      simp only [Parameter.accepts, Bool.and_eq_true, Bool.not_eq_true'] at accepts ⊢
      exact ⟨by simp, by simpa using accepts.2⟩

theorem firstWrongArgument_normals (function : Function) (position : Nat)
    (parameters : List Parameter) (arguments : List Expr)
    (taken : firstWrongArgument function position parameters arguments = none) :
    firstWrongArgument function position parameters (Expr.normals arguments) = none := by
  induction arguments generalizing parameters position with
  | nil => cases parameters <;> simp [Expr.normals, firstWrongArgument]
  | cons argument rest ih =>
      cases parameters with
      | nil => simp [firstWrongArgument]
      | cons parameter parameters =>
          simp only [firstWrongArgument] at taken
          split at taken
          · next accepts =>
              simp only [Expr.normals, firstWrongArgument, Parameter.accepts_normal accepts, if_true]
              exact ih (position + 1) parameters taken
          · cases taken

theorem Term.call?_normal {function : Function} {arguments : List Expr} {term : Term}
    (check : Term.call? function arguments = .ok term) :
    Term.call? function (Expr.normals arguments) = .ok (Term.call function arguments).normal := by
  simp only [Term.call?, Expr.length_normals] at check ⊢
  split_ifs at check ⊢ with tooMany tooFew
  split at check
  · cases check
  · next taken =>
      rw [firstWrongArgument_normals function 1 function.parameters arguments taken]
      simp [Term.normal]

end JsonQuery

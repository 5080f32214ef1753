import Mathlib.Tactic
import JsonQuery.Query.Change
import JsonQuery.Proofs.CompiledQueries

/-! # Equal queries

The normal form forgets which parentheses were written and whether a slice had a stride. Neither
makes a difference to what a query finds, nor to its text. So queries with one normalized text do the
same to every document.
-/

namespace JsonQuery

/-! ## The text of the normal form -/

@[simp] theorem Term.isBinary_normal (t : Term) : t.normal.isBinary = t.isBinary := by
  cases t <;> simp [Term.normal, Term.isBinary]

@[simp] theorem Term.isOperator_normal (operator : Operator) (t : Term) :
    t.normal.isOperator operator = t.isOperator operator := by
  cases t <;> simp [Term.normal, Term.isOperator]

@[simp] theorem Operator.groupsLeft_normal (operator : Operator) (left : Term) :
    operator.groupsLeft left.normal = operator.groupsLeft left := by
  simp [Operator.groupsLeft]

@[simp] theorem Operator.groupsRight_normal (operator : Operator) (right : Term) :
    operator.groupsRight right.normal = operator.groupsRight right := by
  cases operator <;> simp [Operator.groupsRight]

mutual
theorem Term.text_normal (t : Term) : t.normal.text = t.text := by
  cases t with
  | filter condition => simp only [Term.normal, Term.text, condition.text_normal]
  | child selectors => simp only [Term.normal, Term.text, Expr.selectorTexts_normals selectors]
  | descendant selector => simp only [Term.normal, Term.text, selector.selectorText_normal]
  | binary operator left right =>
      simp only [Term.normal, Term.text, Expr.head_normal, left.text_normal, right.text_normal,
        Operator.groupsLeft_normal, Operator.groupsRight_normal]
  | not operand =>
      simp only [Term.normal, Term.text, Expr.head_normal, operand.text_normal,
        Term.isBinary_normal]
  | call function arguments => simp only [Term.normal, Term.text, Expr.argumentTexts_normals arguments]
  | slice start stop step => simp only [Term.normal, Term.text, sliceText, Option.getD_some]
  | _ => rw [Term.normal]
termination_by sizeOf t

theorem Term.texts_normals (links : List Term) :
    Term.texts (Term.normals links) = Term.texts links := by
  cases links with
  | nil => rw [Term.normals]
  | cons term rest => simp only [Term.normals, Term.texts, term.text_normal, Term.texts_normals rest]
termination_by sizeOf links

theorem Expr.text_normal (e : Expr) (grouped : Bool) : (e.normal grouped).text = e.text := by
  cases e with
  | chain head links _ =>
      simp only [Expr.normal, Expr.text, head.text_normal, Term.texts_normals links]
termination_by sizeOf e

theorem Expr.selectorText_normal (e : Expr) (grouped : Bool) :
    (e.normal grouped).selectorText = e.selectorText := by
  cases e with
  | chain head links _ =>
  have headText := head.text_normal
  have linksText := Term.texts_normals links
  cases head with
  | slice start stop step =>
      simp only [Expr.normal, Term.normal, Expr.selectorText, sliceText, Option.getD_some]
  | filter condition =>
      simp only [Expr.normal, Term.normal, Expr.selectorText, condition.text_normal]
  | child selectors =>
      simp only [Expr.normal, Term.normal, Expr.selectorText, Expr.selectorTexts_normals selectors]
  | name | index | wildcard => simp only [Expr.normal, Term.normal, Expr.selectorText]
  | _ =>
      simp only [Term.normal] at headText
      simp only [Expr.normal, Term.normal, Expr.selectorText, headText, linksText]
termination_by sizeOf e

theorem Expr.selectorTexts_normals (selectors : List Expr) :
    Expr.selectorTexts (Expr.normals selectors) = Expr.selectorTexts selectors := by
  match selectors with
  | [] => rw [Expr.normals]
  | [selector] => simp only [Expr.normals, Expr.selectorTexts, selector.selectorText_normal]
  | selector :: second :: rest =>
      have more := Expr.selectorTexts_normals (second :: rest)
      simp only [Expr.normals, Expr.selectorTexts, selector.selectorText_normal] at more ⊢
      rw [more]
termination_by sizeOf selectors

theorem Expr.argumentTexts_normals (arguments : List Expr) :
    Expr.argumentTexts (Expr.normals arguments) = Expr.argumentTexts arguments := by
  match arguments with
  | [] => rw [Expr.normals]
  | [e] => simp only [Expr.normals, Expr.argumentTexts, e.text_normal]
  | e :: second :: rest =>
      have more := Expr.argumentTexts_normals (second :: rest)
      simp only [Expr.normals, Expr.argumentTexts, e.text_normal] at more ⊢
      rw [more]
termination_by sizeOf arguments
end

/-! ## What the normal form finds -/

theorem Node.slice_normal (node : Node) (start stop step : Option Int) :
    node.slice start stop (some (step.getD 1)) = node.slice start stop step := by
  unfold Node.slice Slice.indices
  simp only [Option.getD_some]

mutual
theorem Term.visit_normal (document : Json) (t : Term) (next : Node → List Node) (node : Node) :
    t.normal.visit document next node = t.visit document next node := by
  cases t with
  | slice start stop step => simp only [Term.normal, Term.visit, Node.slice_normal]
  | filter condition =>
      simp only [Term.normal, Term.visit, condition.eval_normal document]
  | child selectors =>
      simp only [Term.normal, Term.visit]
      exact Expr.visitAll_normals document selectors next node
  | descendant selector =>
      have picked : (selector.normal false).visit document (fun found => [found]) =
          selector.visit document fun found => [found] := by
        funext visited
        exact selector.visit_normal document false _ visited
      simp only [Term.normal, Term.visit, picked]
  | binary | not | call => simp only [Term.normal, Term.visit]
  | _ => rw [Term.normal]
termination_by sizeOf t

theorem Term.follow_normals (document : Json) (links : List Term) (node : Node) :
    Term.follow document (Term.normals links) node = Term.follow document links node := by
  cases links with
  | nil => rw [Term.normals]
  | cons term rest =>
      have more : Term.follow document (Term.normals rest) = Term.follow document rest := by
        funext found
        exact Term.follow_normals document rest found
      simp only [Term.normals, Term.follow, more]
      exact term.visit_normal document _ node
termination_by sizeOf links

theorem Expr.visit_normal (document : Json) (selector : Expr) (grouped : Bool)
    (next : Node → List Node) (node : Node) :
    (selector.normal grouped).visit document next node = selector.visit document next node := by
  cases selector with
  | chain head links _ =>
      simp only [Expr.normal, Expr.visit]
      exact head.visit_normal document next node
termination_by sizeOf selector

theorem Expr.visitAll_normals (document : Json) (selectors : List Expr) (next : Node → List Node)
    (node : Node) :
    Expr.visitAll document (Expr.normals selectors) next node =
      Expr.visitAll document selectors next node := by
  cases selectors with
  | nil => rw [Expr.normals]
  | cons selector rest =>
      simp only [Expr.normals, Expr.visitAll]
      rw [selector.visit_normal document false next node, Expr.visitAll_normals document rest next node]
termination_by sizeOf selectors

theorem Expr.eval_normal (document : Json) (e : Expr) (grouped : Bool) (current : Json) :
    (e.normal grouped).eval document current = e.eval document current := by
  cases e with
  | chain head links _ =>
  cases head with
  | root | current =>
      simp only [Expr.normal, Term.normal, Expr.eval, Term.follow_normals document links]
  | binary operator left right =>
      cases operator <;>
        simp only [Expr.normal, Term.normal, Expr.eval, left.eval_normal document,
          right.eval_normal document]
  | not operand => simp only [Expr.normal, Term.normal, Expr.eval, operand.eval_normal document]
  | call function arguments =>
      simp only [Expr.normal, Term.normal, Expr.eval]
      rw [Expr.evalAll_normals document function.parameters arguments current]
  | _ => simp only [Expr.normal, Term.normal, Expr.eval]
termination_by sizeOf e

theorem Expr.evalAll_normals (document : Json) (parameters : List Parameter) (arguments : List Expr)
    (current : Json) :
    Expr.evalAll document parameters (Expr.normals arguments) current =
      Expr.evalAll document parameters arguments current := by
  cases arguments with
  | nil => rw [Expr.normals]
  | cons argument rest =>
      cases parameters with
      | nil => simp only [Expr.normals, Expr.evalAll]
      | cons parameter parameters =>
          simp only [Expr.normals, Expr.evalAll]
          rw [argument.eval_normal document, Expr.evalAll_normals document parameters rest current]
termination_by sizeOf arguments
end

/-! ## Queries of one normal form -/

theorem Term.normals_eq_map (links : List Term) : Term.normals links = links.map Term.normal := by
  induction links with
  | nil => rw [Term.normals, List.map_nil]
  | cons term rest ih => rw [Term.normals, List.map_cons, ih]

theorem Slot.ofTerm?_normal (t : Term) : Slot.ofTerm? t.normal = Slot.ofTerm? t := by
  cases t <;> simp only [Term.normal, Slot.ofTerm?]

namespace Query

/-- Two queries do the same to every document and go on doing so when each is replaced by its
    parent. The caller of a change keeps a state, so that equal runs also ask the same questions. -/
structure BehavesLike (p q : Query) : Prop where
  locate : ∀ document, p.locate document = q.locate document
  deleteIf : ∀ {σ : Type} (ask : Node → StateM σ Bool) (document : Json),
    p.deleteIf ask document = q.deleteIf ask document
  replaceWith : ∀ {σ : Type} (change : Json → StateM σ Json) (document : Json),
    p.replaceWith change document = q.replaceWith change document
  insert : ∀ value document, p.insert value document = q.insert value document
  isSingular : p.isSingular = q.isSingular
  length : p.length = q.length
  parent? : (p.parent? = none ∧ q.parent? = none) ∨
    ∃ p' q', p.parent? = some p' ∧ q.parent? = some q' ∧ p'.sameText q' = true

section NormalForm

variable {p q : Query} (same : Term.normals p.links = Term.normals q.links)
include same

theorem run_of_normals (document : Json) : p.run document = q.run document := by
  unfold run
  rw [← Term.follow_normals document p.links, same, Term.follow_normals]

theorem slot?_of_normals : p.slot? = q.slot? := by
  have last : ∀ links : List Term, links.getLast?.bind Slot.ofTerm? =
      (Term.normals links).getLast?.bind Slot.ofTerm? := by
    intro links
    rw [Term.normals_eq_map, List.getLast?_map]
    cases links.getLast? with
    | none => rfl
    | some term => exact (Slot.ofTerm?_normal term).symm
  unfold slot?
  rw [last p.links, last q.links, same]

theorem isSingular_of_normals : p.isSingular = q.isSingular := by
  have singular : ∀ r : Query, r.isSingular = (Term.normals r.links).all Term.isSingular := by
    intro r
    rw [Term.all_isSingular_normals]
    rfl
  rw [singular p, singular q, same]

theorem length_of_normals : p.length = q.length := by
  have count : p.links.length = q.links.length := by
    simpa [Term.normals_eq_map] using congrArg List.length same
  simp [Query.length, root, Expr.length, Expr.links, count]

theorem text_of_normals : p.text = q.text := by
  have texts := congrArg Term.texts same
  rw [Term.texts_normals, Term.texts_normals] at texts
  simp [text, root, Expr.text, texts]

theorem normals_parent : Term.normals p.links.dropLast = Term.normals q.links.dropLast := by
  have front := congrArg List.dropLast same
  simpa [Term.normals_eq_map, List.map_dropLast] using front

/-- Either both queries are `$`, or both have a parent, and those have one normal form. -/
theorem parent?_of_normals : (p.parent? = none ∧ q.parent? = none) ∨
    ∃ p' q', p.parent? = some p' ∧ q.parent? = some q' ∧
      Term.normals p'.links = Term.normals q'.links := by
  have count : p.links.length = q.links.length := by
    simpa [Term.normals_eq_map] using congrArg List.length same
  by_cases isRoot : p.links = []
  · have isRoot' : q.links = [] := List.length_eq_zero_iff.mp (by simpa [isRoot] using count.symm)
    exact .inl ⟨parent?_eq_none_iff.mpr isRoot, parent?_eq_none_iff.mpr isRoot'⟩
  · have notRoot' : q.links ≠ [] := by
      intro isRoot'
      exact isRoot (List.length_eq_zero_iff.mp (by simpa [isRoot'] using count))
    obtain ⟨text, isParent⟩ := parent?_of_ne_nil isRoot
    obtain ⟨text', isParent'⟩ := parent?_of_ne_nil notRoot'
    exact .inr ⟨_, _, isParent, isParent', normals_parent same⟩

theorem insert_of_normals (value document : Json) :
    p.insert value document = q.insert value document := by
  unfold insert
  rw [slot?_of_normals same]
  rcases parent?_of_normals same with ⟨isRoot, isRoot'⟩ | ⟨p', q', isParent, isParent', more⟩
  · rw [isRoot, isRoot']
  · rw [isParent, isParent']
    cases q.slot? with
    | none => rfl
    | some slot =>
        dsimp only
        rw [run_of_normals more]

theorem behavesLike_of_normals : p.BehavesLike q where
  locate document := by simp only [Query.locate, run_of_normals same]
  deleteIf ask document := by simp only [Query.deleteIf, run_of_normals same]
  replaceWith change document := by simp only [Query.replaceWith, run_of_normals same]
  insert := insert_of_normals same
  isSingular := isSingular_of_normals same
  length := length_of_normals same
  parent? := by
    rcases parent?_of_normals same with ⟨isRoot, isRoot'⟩ | ⟨p', q', isParent, isParent', more⟩
    · exact .inl ⟨isRoot, isRoot'⟩
    · exact .inr ⟨p', q', isParent, isParent', by simp [sameText, text_of_normals more]⟩

end NormalForm

/-- Queries that are equal behave alike: whatever their texts, if they have one normalized text then
    they find the same nodes of every document and change it in the same way. -/
theorem behavesLike_of_sameText {source source' : String} {p q : Query}
    (ok : compile source = .ok p) (ok' : compile source' = .ok q) (same : p.sameText q = true) :
    p.BehavesLike q := by
  have text : p.text = q.text := by simpa [sameText] using same
  apply behavesLike_of_normals
  exact normals_of_text (wellFormed_of_compile ok) (wellFormed_of_compile ok') text

/-- A query in shorthand, without a stride and with a sign in front of zero. -/
def shortSpelling : Query where
  links := [.name "a", .slice none none none,
    .filter (.ofTerm (.binary .lt (.chain .current [.name "b"] false)
      (.ofTerm (.number (.int 0)))))]
  source := "$.a[:][?@.b<-0]"

/-- The same query in brackets, with an escape, a stride and parentheses. -/
def longSpelling : Query where
  links := [.name "a", .slice none none (some 1),
    .filter (.chain (.binary .lt (.chain .current [.name "b"] false)
      (.ofTerm (.number (.int 0)))) [] true)]
  source := "$[\"\\u0061\"][::1][?(@['b'] < 0)]"

theorem behavesLike_of_sameText_spellings :
    compile "$.a[:][?@.b<-0]" = .ok shortSpelling ∧
      compile "$[\"\\u0061\"][::1][?(@['b'] < 0)]" = .ok longSpelling ∧
      shortSpelling.sameText longSpelling = true ∧ shortSpelling.BehavesLike longSpelling := by
  have shortRead : Token.ofQuery "$.a[:][?@.b<-0]" = .ok
      [⟨.root, "$", none, ⟨0, 1⟩⟩, ⟨.dot, ".", none, ⟨1, 1⟩⟩, ⟨.identifier, "a", none, ⟨2, 1⟩⟩,
        ⟨.leftBracket, "[", none, ⟨3, 1⟩⟩, ⟨.colon, ":", none, ⟨4, 1⟩⟩,
        ⟨.rightBracket, "]", none, ⟨5, 1⟩⟩, ⟨.leftBracket, "[", none, ⟨6, 1⟩⟩,
        ⟨.question, "?", none, ⟨7, 1⟩⟩, ⟨.current, "@", none, ⟨8, 1⟩⟩, ⟨.dot, ".", none, ⟨9, 1⟩⟩,
        ⟨.identifier, "b", none, ⟨10, 1⟩⟩, ⟨.lt, "<", none, ⟨11, 1⟩⟩, ⟨.minus, "-", none, ⟨12, 1⟩⟩,
        ⟨.number, "0", some (.number (.int 0)), ⟨13, 1⟩⟩, ⟨.rightBracket, "]", none, ⟨14, 1⟩⟩,
        Token.endAt 15] := by decide +kernel
  have longRead : Token.ofQuery "$[\"\\u0061\"][::1][?(@['b'] < 0)]" = .ok
      [⟨.root, "$", none, ⟨0, 1⟩⟩, ⟨.leftBracket, "[", none, ⟨1, 1⟩⟩,
        ⟨.string, "\"\\u0061\"", some (.text "a"), ⟨2, 8⟩⟩, ⟨.rightBracket, "]", none, ⟨10, 1⟩⟩,
        ⟨.leftBracket, "[", none, ⟨11, 1⟩⟩, ⟨.colon, ":", none, ⟨12, 1⟩⟩,
        ⟨.colon, ":", none, ⟨13, 1⟩⟩, ⟨.number, "1", some (.number (.int 1)), ⟨14, 1⟩⟩,
        ⟨.rightBracket, "]", none, ⟨15, 1⟩⟩, ⟨.leftBracket, "[", none, ⟨16, 1⟩⟩,
        ⟨.question, "?", none, ⟨17, 1⟩⟩, ⟨.leftParen, "(", none, ⟨18, 1⟩⟩,
        ⟨.current, "@", none, ⟨19, 1⟩⟩, ⟨.leftBracket, "[", none, ⟨20, 1⟩⟩,
        ⟨.string, "'b'", some (.text "b"), ⟨21, 3⟩⟩, ⟨.rightBracket, "]", none, ⟨24, 1⟩⟩,
        ⟨.lt, "<", none, ⟨26, 1⟩⟩, ⟨.number, "0", some (.number (.int 0)), ⟨28, 1⟩⟩,
        ⟨.rightParen, ")", none, ⟨29, 1⟩⟩, ⟨.rightBracket, "]", none, ⟨30, 1⟩⟩,
        Token.endAt 31] := by decide +kernel
  have short : compile "$.a[:][?@.b<-0]" = .ok shortSpelling :=
    compile_eq_ok_iff.mpr ⟨_, shortRead, rfl⟩
  have long : compile "$[\"\\u0061\"][::1][?(@['b'] < 0)]" = .ok longSpelling :=
    compile_eq_ok_iff.mpr ⟨_, longRead, rfl⟩
  have same : shortSpelling.sameText longSpelling = true := by decide +kernel
  exact ⟨short, long, same, behavesLike_of_sameText short long same⟩

end Query

end JsonQuery

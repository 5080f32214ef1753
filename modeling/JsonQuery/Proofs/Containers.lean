import JsonQuery.Proofs.Addresses
import JsonQuery.Proofs.QueryEquality

/-! # Parents find the containers

The parent of a query has all its segments but the last one. So the nodes of the query are those that
the last segment picks at the nodes of the parent, one of them after the other, and unless this
segment goes through all nodes below, each of them lies directly inside a node of the parent.
-/

namespace JsonQuery

/-! ## One segment more -/

theorem Term.exists_entry_of_isSelector {document : Json} {term : Term}
    (isSelector : term.isSelector = true) {node found : Node}
    (picked : found ∈ term.visit document (fun found => [found]) node) :
    ∃ entry ∈ node.value.entries, found = node.child entry.1 entry.2 := by
  obtain ⟨entries, same, inside⟩ := term.exists_entries document isSelector node
  rw [same] at picked
  obtain ⟨entry, isEntry, rfl⟩ := List.mem_map.mp picked
  exact ⟨entry, inside.subset isEntry, rfl⟩

theorem Term.exists_entry_of_visit {document : Json} {term : Term} (isLink : term.isLink = true)
    (wf : term.WellFormed) (direct : term.isDescendant = false) {node found : Node}
    (picked : found ∈ term.visit document (fun found => [found]) node) :
    ∃ entry ∈ node.value.entries, found = node.child entry.1 entry.2 := by
  cases term with
  | name | index | wildcard | slice | filter => exact exists_entry_of_isSelector rfl picked
  | child selectors =>
      rw [Term.WellFormed] at wf
      rw [Term.visit] at picked
      obtain ⟨selector, isHeld, picked⟩ := Expr.mem_visitAll.mp picked
      have isSelector := Expr.isSelector_of_selectorsWellFormed wf.2 selector isHeld
      exact exists_entry_of_isSelector isSelector picked
  | descendant => cases direct
  | _ => cases isLink

namespace Query

variable {q parent : Query}

theorem links_of_parent? (isParent : q.parent? = some parent) :
    parent.links = q.links.dropLast ∧ parent.source = parent.text := by
  unfold parent? at isParent
  split at isParent
  · cases isParent
  · cases isParent
    exact ⟨rfl, rfl⟩

theorem wellFormed_parent (wf : q.WellFormed) (isParent : q.parent? = some parent) :
    parent.WellFormed := by
  rw [wellFormed_iff] at wf ⊢
  rw [(links_of_parent? isParent).1]
  intro term isTerm
  exact wf term (List.mem_of_mem_dropLast isTerm)

theorem WellFormed.exists_again (wf : q.WellFormed) :
    ∃ again, compile q.text = .ok again ∧ again.sameText q = true := by
  obtain ⟨root, us, eof, read, rootKind, eofKind, derives⟩ := ofQuery_text wf
  refine ⟨_, compile_of_derives read rootKind derives eofKind, ?_⟩
  simp [sameText, text, Query.root, Expr.text, Term.texts_normals]

theorem text_of_root (isRoot : q.links = []) : q.text = "$" := by
  rw [text, Query.root, isRoot, Expr.text, Term.text, Term.texts]
  rfl

/-- The chains of the parents are the shorter and shorter beginnings of the chain. -/
theorem links_ancestors {limit : Nat} (enough : q.links.length ≤ limit) :
    (q.ancestors limit).map links = (List.range q.links.length).reverse.map q.links.take := by
  induction limit generalizing q with
  | zero =>
      have isRoot : q.links = [] := List.length_eq_zero_iff.mp (by omega)
      simp [ancestors, isRoot]
  | succ limit ih =>
      rw [ancestors]
      split
      · next parent isParent =>
          obtain ⟨links, _⟩ := links_of_parent? isParent
          have inside : q.links ≠ [] := by
            intro isRoot
            rw [parent?_eq_none_iff.mpr isRoot] at isParent
            cases isParent
          obtain ⟨count, length⟩ : ∃ count, q.links.length = count + 1 :=
            Nat.exists_eq_succ_of_ne_zero (by simpa using inside)
          have shorter : parent.links.length = count := by simp [links, length]
          have front : parent.links = q.links.take count := by
            rw [links, List.dropLast_eq_take, length, Nat.add_sub_cancel]
          rw [List.map_cons, ih (by omega), shorter, length, List.range_succ, List.reverse_append,
            List.reverse_singleton, List.singleton_append, List.map_cons, ← front]
          congr 1
          apply List.map_congr_left
          intro position inRange
          have small : position < count := by simpa using inRange
          rw [front, List.take_take, Nat.min_eq_left small.le]
      · next isNone =>
          simp [parent?_eq_none_iff.mp isNone]

theorem run_of_links {last : Term} (links : q.links = parent.links ++ [last]) (document : Json) :
    q.run document =
      (parent.run document).flatMap (last.visit document fun found => [found]) := by
  have one : Term.follow document [last] = last.visit document fun found => [found] := by
    funext node
    rfl
  rw [run, links, Term.follow_append, one, run]

/-- What the parent of a query is, and how the nodes of both are related through the last segment of
    the query. -/
structure IsParent (parent q : Query) (last : Term) : Prop where
  links : q.links = parent.links ++ [last]
  source : parent.source = parent.text
  compiles : ∃ again, compile parent.source = .ok again ∧ again.sameText parent = true
  /-- The nodes of the query are what its last segment selects at those of the parent, in order. -/
  located : ∀ document, (q.run document).map Node.located =
    (parent.run document).flatMap fun node => last.select document node.located
  /-- The container of a node is the node of the parent at the location without the last key. -/
  containers : last.isDescendant = false → ∀ document, ∀ node ∈ q.run document,
    node.location ≠ [] ∧ ∃ container ∈ parent.run document,
      container.location = node.location.dropLast ∧ node.parent = some container.value

theorem isParent_of_wellFormed (wf : q.WellFormed) (isParent : q.parent? = some parent)
    {last : Term} (links : q.links = parent.links ++ [last]) : parent.IsParent q last where
  links := links
  source := (links_of_parent? isParent).2
  compiles := by
    rw [(links_of_parent? isParent).2]
    exact (wellFormed_parent wf isParent).exists_again
  located document := by
    rw [run_of_links links, List.map_flatMap]
    apply List.flatMap_congr
    intro node _
    exact last.located_visit document node
  containers direct document node selected := by
    rw [run_of_links links] at selected
    obtain ⟨container, isContainer, picked⟩ := List.mem_flatMap.mp selected
    have ⟨isLink, wfLast⟩ := q.wellFormed_iff.mp wf last (by simp [links])
    obtain ⟨entry, _, rfl⟩ := Term.exists_entry_of_visit isLink wfLast direct picked
    rw [Node.location_child]
    refine ⟨by simp, container, isContainer, ?_, rfl⟩
    rw [List.dropLast_concat]

/-- Every compiled query but `$` has a parent, which addresses the containers of its nodes. The
    parents of parents have ever shorter chains, down to `$`, which has no parent. -/
theorem parent_finds_containers {source : String} (ok : compile source = .ok q)
    (several : 2 ≤ q.length) :
    (∃ parent last, q.parent? = some parent ∧ parent.IsParent q last) ∧
      ∀ limit, q.length ≤ limit + 1 →
        (q.ancestors limit).length = q.length - 1 ∧
        (q.ancestors limit).map links = (List.range (q.length - 1)).reverse.map q.links.take ∧
        ∃ top, (q.ancestors limit).getLast? = some top ∧ top.links = [] ∧ top.text = "$" ∧
          top.parent? = none := by
  have length : q.length = q.links.length + 1 := rfl
  have inside : q.links ≠ [] := by
    intro isRoot
    rw [isRoot] at length
    simp [length] at several
  constructor
  · obtain ⟨text, isParent⟩ := parent?_of_ne_nil inside
    exact ⟨_, q.links.getLast inside, isParent,
      isParent_of_wellFormed (wellFormed_of_compile ok) isParent
        (List.dropLast_concat_getLast inside).symm⟩
  · intro limit enough
    have enough : q.links.length ≤ limit := by omega
    have chains := links_ancestors enough
    have count : (q.ancestors limit).length = q.links.length := by
      simpa using congrArg List.length chains
    obtain ⟨top, isTop⟩ : ∃ top, (q.ancestors limit).getLast? = some top := by
      apply Option.isSome_iff_exists.mp
      simpa [← List.length_eq_zero_iff, count] using inside
    have isRoot : top.links = [] := by
      have positive : q.links.length ≠ 0 := by simpa using inside
      have last := congrArg List.getLast? chains
      rw [List.getLast?_map, isTop, List.getLast?_map, List.getLast?_reverse, List.head?_range,
        if_neg positive] at last
      simpa using last
    refine ⟨by omega, ?_, top, isTop, isRoot, ?_, parent?_eq_none_iff.mpr isRoot⟩
    · rw [length, Nat.add_sub_cancel, chains]
    · exact text_of_root isRoot

/-- The query `$.a[0, -1].b`. -/
def unionQuery : Query where
  links := [.name "a", .child [.ofTerm (.index 0), .ofTerm (.index (-1))], .name "b"]
  source := "$.a[0, -1].b"

theorem parent_finds_containers_union :
    compile "$.a[0, -1].b" = .ok unionQuery ∧ 2 ≤ unionQuery.length ∧
      (∃ parent last, unionQuery.parent? = some parent ∧ parent.source = "$['a'][0, -1]" ∧
        parent.IsParent unionQuery last) ∧
      (unionQuery.ancestors 3).map Query.source = ["$['a'][0, -1]", "$['a']", "$"] := by
  have read : Token.ofQuery "$.a[0, -1].b" = .ok
      [⟨.root, "$", none, ⟨0, 1⟩⟩, ⟨.dot, ".", none, ⟨1, 1⟩⟩, ⟨.identifier, "a", none, ⟨2, 1⟩⟩,
        ⟨.leftBracket, "[", none, ⟨3, 1⟩⟩, ⟨.number, "0", some (.number (.int 0)), ⟨4, 1⟩⟩,
        ⟨.comma, ",", none, ⟨5, 1⟩⟩, ⟨.minus, "-", none, ⟨7, 1⟩⟩,
        ⟨.number, "1", some (.number (.int 1)), ⟨8, 1⟩⟩, ⟨.rightBracket, "]", none, ⟨9, 1⟩⟩,
        ⟨.dot, ".", none, ⟨10, 1⟩⟩, ⟨.identifier, "b", none, ⟨11, 1⟩⟩,
        Token.endAt 12] := by decide +kernel
  have compiled : compile "$.a[0, -1].b" = .ok unionQuery :=
    compile_eq_ok_iff.mpr ⟨_, read, rfl⟩
  obtain ⟨⟨parent, last, isParent, finds⟩, _⟩ := parent_finds_containers compiled (by decide)
  have text : (unionQuery.parent?.map Query.source) = some "$['a'][0, -1]" := by cbv
  rw [isParent] at text
  exact ⟨compiled, by decide, ⟨parent, last, isParent, Option.some.inj text, finds⟩, by cbv⟩

end Query

end JsonQuery

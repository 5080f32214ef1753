import JsonQuery.Proofs.Addresses
import JsonQuery.Proofs.CompiledQueries

/-! # Paths are queries

A normalized path is the normalized text of a query: each key is the selector that picks what lies
under it. On the document the path comes from this query finds the node of the path and nothing
else. Indices have to be safe integers for that, which holds as long as no array is too long.
-/

namespace JsonQuery

/-! ## Documents without overlong arrays -/

namespace Json

mutual
/-- Every array inside the value has fewer than `2 ^ 53` items. -/
def Indexable : Json → Prop
  | .null | .bool _ | .number _ | .string _ => True
  | .array items => items.length < 2 ^ 53 ∧ IndexableItems items
  | .object members => IndexableMembers members

def IndexableItems : List Json → Prop
  | [] => True
  | item :: rest => item.Indexable ∧ IndexableItems rest

def IndexableMembers : List (String × Json) → Prop
  | [] => True
  | (_, value) :: rest => value.Indexable ∧ IndexableMembers rest
end

theorem indexableItems_iff (items : List Json) :
    IndexableItems items ↔ ∀ item ∈ items, item.Indexable := by
  induction items with
  | nil => simp [IndexableItems]
  | cons item rest ih => simp [IndexableItems, ih]

theorem indexableMembers_iff (members : List (String × Json)) :
    IndexableMembers members ↔ ∀ member ∈ members, member.2.Indexable := by
  induction members with
  | nil => simp [IndexableMembers]
  | cons member rest ih =>
      obtain ⟨name, value⟩ := member
      simp [IndexableMembers, ih]

end Json

/-- Every index among the keys is a safe integer. -/
def Location.Safe (location : Location) : Prop := ∀ index, .index index ∈ location → index < 2 ^ 53

namespace Json

theorem Indexable.child {value inner : Json} {key : Key} (indexable : value.Indexable)
    (found : value.child? key = some inner) : Location.Safe [key] ∧ inner.Indexable := by
  cases value with
  | array items =>
      cases key with
      | index index =>
          obtain ⟨short, inside⟩ := indexable
          obtain ⟨within, _⟩ := List.getElem?_eq_some_iff.mp found
          refine ⟨fun other isKey => ?_, ?_⟩
          · obtain ⟨⟩ := List.mem_singleton.mp isKey
            omega
          · exact (indexableItems_iff items).mp inside inner (List.mem_of_getElem? found)
      | name name => cases found
  | object members =>
      cases key with
      | index index => cases found
      | name name =>
          refine ⟨fun other isKey => ?_, ?_⟩
          · cases List.mem_singleton.mp isKey
          · exact (indexableMembers_iff members).mp indexable _ (mem_of_lookup found)
  | _ => cases found

theorem Indexable.safe {value inner : Json} {location : Location} (indexable : value.Indexable)
    (found : value.at? location = some inner) : location.Safe := by
  induction location generalizing value with
  | nil =>
      intro index isKey
      cases isKey
  | cons key rest ih =>
      rw [at?] at found
      split at found
      · next child isChild =>
          obtain ⟨safe, indexableChild⟩ := indexable.child isChild
          intro index isKey
          rcases List.mem_cons.mp isKey with rfl | inRest
          · exact safe index List.mem_cons_self
          · exact ih indexableChild found index inRest
      · cases found

end Json

/-! ## The query of a path -/

namespace Key

def term : Key → Term
  | .name member => .name member
  | .index position => .index position

theorem term_injective : Function.Injective term := by
  intro a b same
  cases a <;> cases b <;> cases same <;> rfl

theorem text_term (key : Key) : key.term.text = key.text := by
  cases key with
  | name member => simp only [term, Term.text, Key.text]
  | index position =>
      have digits : intText (position : Int) = natText position := by
        rw [intText, if_neg (by omega), Int.natAbs_natCast, natText]
      simp only [term, Term.text, Key.text, digits]

theorem normal_term (key : Key) : key.term.normal = key.term := by
  cases key <;> rw [term, Term.normal]

theorem isSingular_term (key : Key) : key.term.isSingular = true := by
  cases key <;> rfl

theorem wellFormed_term {key : Key} (safe : Location.Safe [key]) :
    key.term.isLink = true ∧ key.term.WellFormed := by
  cases key with
  | name member =>
      refine ⟨rfl, ?_⟩
      rw [term, Term.WellFormed]
      trivial
  | index position =>
      have small := safe position List.mem_cons_self
      refine ⟨rfl, ?_⟩
      rw [term, Term.WellFormed]
      refine Bool.and_eq_true_iff.mpr ⟨decide_eq_true ?_, decide_eq_true ?_⟩ <;>
        rw [largestSafeInteger] <;> omega

theorem visit_term (document : Json) {node : Node} {key : Key} {inner : Json}
    (found : node.value.child? key = some inner) (next : Node → List Node) :
    key.term.visit document next node = next (node.child key inner) := by
  obtain ⟨trail, value, parent⟩ := node
  cases value with
  | array items =>
      cases key with
      | name member => cases found
      | index position =>
          simp only [Json.child?] at found
          obtain ⟨within, _⟩ := List.getElem?_eq_some_iff.mp found
          have normal : Node.normalizeIndex? items.length position = some position :=
            (Node.isAt_iff within position).mp (by simp [Located.isAt])
          simp [term, Term.visit, Node.item?, normal, Node.itemAt?, found]
  | object members =>
      cases key with
      | index position => cases found
      | name member =>
          simp only [Json.child?] at found
          simp [term, Term.visit, Node.member?, found]
  | _ => cases found

end Key

namespace Location

def query (location : Location) : Query where
  links := location.map Key.term
  source := location.text

theorem text_query (location : Location) : location.query.text = location.text := by
  have keys : Term.texts (location.map Key.term) = keysText location := by
    induction location with
    | nil => rw [List.map_nil, Term.texts, keysText]
    | cons key rest ih => rw [List.map_cons, Term.texts, keysText, key.text_term, ih]
  simp only [query, Query.text, Query.root, Expr.text, Term.text, Location.text, keys]

theorem normals_query (location : Location) :
    Term.normals location.query.links = location.query.links := by
  unfold query
  induction location with
  | nil => rw [List.map_nil, Term.normals]
  | cons key rest ih => rw [List.map_cons, Term.normals, key.normal_term, ih]

theorem isSingular_query (location : Location) : location.query.isSingular = true := by
  have singular : (location.map Key.term).all Term.isSingular = true := by
    rw [List.all_map]
    exact List.all_eq_true.mpr fun key _ => key.isSingular_term
  exact singular

theorem Safe.wellFormed_query {location : Location} (safe : location.Safe) :
    location.query.WellFormed := by
  rw [Query.wellFormed_iff]
  intro term isTerm
  obtain ⟨key, isKey, rfl⟩ := List.mem_map.mp isTerm
  apply Key.wellFormed_term
  intro index isIndex
  obtain rfl := List.mem_singleton.mp isIndex
  exact safe index isKey

theorem Safe.compile_query {location : Location} (safe : location.Safe) :
    Query.compile location.text = .ok location.query := by
  obtain ⟨root, us, eof, read, rootKind, eofKind, derives⟩ := ofQuery_text safe.wellFormed_query
  rw [text_query] at read
  rw [normals_query] at derives
  exact Query.compile_of_derives read rootKind derives eofKind

/-- Locations with one text have one query, and thus the same keys. -/
theorem Safe.eq_of_text {a b : Location} (safe : a.Safe) (safe' : b.Safe) (same : a.text = b.text) :
    a = b := by
  have read := safe.compile_query
  rw [same, safe'.compile_query] at read
  have links : b.query.links = a.query.links := congrArg Query.links (Except.ok.inj read)
  exact (Key.term_injective.list_map links).symm

end Location

/-! ## What the query of a path finds -/

theorem Term.follow_keys (document : Json) (node : Node) {location : Location} {value : Json}
    (found : node.value.at? location = some value) :
    ∃ final, Term.follow document (location.map Key.term) node = [final] ∧
      final.location = node.location ++ location ∧ final.value = value := by
  induction location generalizing node with
  | nil =>
      cases found
      exact ⟨node, rfl, (List.append_nil _).symm, rfl⟩
  | cons key rest ih =>
      rw [Json.at?] at found
      split at found
      · next inner isChild =>
          have step := Key.visit_term document isChild (Term.follow document (rest.map Key.term))
          obtain ⟨final, followed, ends, same⟩ := ih (node.child key inner) found
          refine ⟨final, ?_, ?_, same⟩
          · rw [List.map_cons, Term.follow, step, followed]
          · rw [ends, Node.location_child, List.append_assoc, List.singleton_append]
      · cases found

theorem Location.locate_query {document value : Json} {location : Location}
    (found : document.at? location = some value) :
    location.query.locate document = [(location.text, value)] := by
  obtain ⟨final, followed, ends, same⟩ := Term.follow_keys document (.root document) found
  rw [Query.locate, Query.run]
  simp only [Location.query, followed, List.map_singleton, Node.path, ends, same]
  rfl

/-- The path of a node is a query that finds this node and nothing else. -/
structure Node.Addressed (document : Json) (node : Node) : Prop where
  compiles : Query.compile node.path = .ok node.location.query
  links : node.location.query.links = node.location.map Key.term
  isSingular : node.location.query.isSingular = true
  text : node.location.query.text = node.path
  locates : node.location.query.locate document = [(node.path, node.value)]

theorem Node.Coherent.addressed {document : Json} (indexable : document.Indexable) {node : Node}
    (coherent : node.Coherent document) : node.Addressed document where
  compiles := (indexable.safe coherent.value).compile_query
  links := rfl
  isSingular := node.location.isSingular_query
  text := node.location.text_query
  locates := Location.locate_query coherent.value

theorem Node.path_inj {document : Json} (indexable : document.Indexable) {a b : Node}
    (coherent : a.Coherent document) (coherent' : b.Coherent document) :
    a.path = b.path ↔ a.location = b.location := by
  constructor
  · exact (indexable.safe coherent.value).eq_of_text (indexable.safe coherent'.value)
  · intro same
    rw [Node.path, Node.path, same]

/-- Every selected node agrees with the document, and its path is a query that finds it alone. So no
    two locations share a path. -/
theorem Query.matches_are_addressed {document : Json} (sorted : document.Sorted)
    (indexable : document.Indexable) (q : Query) :
    ∀ node ∈ q.run document,
      node.Coherent document ∧ node.Addressed document ∧
        ∀ (p : Query), ∀ other ∈ p.run document,
          node.path = other.path ↔ node.location = other.location := by
  intro node selected
  have coherent := (q.reached_run selected).coherent sorted
  refine ⟨coherent, coherent.addressed indexable, fun p other selected' => ?_⟩
  exact Node.path_inj indexable coherent ((p.reached_run selected').coherent sorted)

/-- The query `$..[::-1]['it\\'s']`, which goes through arrays from their ends. -/
def backwardQuery : Query where
  links := [.descendant (.ofTerm (.slice none none (some (-1)))), .name "it's"]
  source := "$..[::-1]['it\\'s']"

/-- The document `[{"it's": 0}, [{"\n": null, "it's": 1}]]`. -/
def quotedDocument : Json :=
  .array [.object [("it's", .int 0)], .array [.object [("\n", .null), ("it's", .int 1)]]]

theorem Query.matches_are_addressed_quoted :
    quotedDocument.Sorted ∧ quotedDocument.Indexable ∧
      backwardQuery.locate quotedDocument =
        [("$[0]['it\\'s']", .int 0), ("$[1][0]['it\\'s']", .int 1)] ∧
      Query.compile "$[1][0]['it\\'s']" =
        .ok ⟨[.index 1, .index 0, .name "it's"], "$[1][0]['it\\'s']"⟩ ∧
      (⟨[.index 1, .index 0, .name "it's"], "$[1][0]['it\\'s']"⟩ : Query).locate quotedDocument =
        [("$[1][0]['it\\'s']", .int 1)] := by
  have sorted : quotedDocument.Sorted := by
    refine ⟨⟨List.pairwise_singleton _ _, trivial, trivial⟩,
      ⟨⟨List.pairwise_pair.mpr ?_, trivial, trivial, trivial⟩, trivial⟩, trivial⟩
    decide
  have indexable : quotedDocument.Indexable := by
    simp [quotedDocument, Json.Indexable, Json.IndexableItems, Json.IndexableMembers, Json.int]
  have run : backwardQuery.run quotedDocument =
      [⟨[.name "it's", .index 0], .int 0, some (.object [("it's", .int 0)])⟩,
        ⟨[.name "it's", .index 0, .index 1], .int 1,
          some (.object [("\n", .null), ("it's", .int 1)])⟩] := by cbv
  obtain ⟨_, addressed, _⟩ := Query.matches_are_addressed sorted indexable backwardQuery
    ⟨[.name "it's", .index 0, .index 1], .int 1, some (.object [("\n", .null), ("it's", .int 1)])⟩
    (by rw [run]; exact List.mem_cons_of_mem _ List.mem_cons_self)
  have located : backwardQuery.locate quotedDocument =
      [("$[0]['it\\'s']", .int 0), ("$[1][0]['it\\'s']", .int 1)] := by cbv
  exact ⟨sorted, indexable, located, addressed.compiles, addressed.locates⟩

end JsonQuery

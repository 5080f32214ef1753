import JsonQuery.Query.Evaluation

/-! # Changing documents

A change first runs the query on the document as it is, and then works through the locations it
found in descending order, so that nothing done to one location moves another one that is still to
come. A location found several times is changed once. Callers may keep a state of their own from one
call of their function to the next.
-/

namespace JsonQuery

/-- The nodes that a caller accepts, asked in order. -/
def Node.accepted {σ : Type} (ask : Node → StateM σ Bool) : List Node → StateM σ (List Node)
  | [] => pure []
  | node :: rest => do
      let yes ← ask node
      let others ← accepted ask rest
      return if yes then node :: others else others

/-- The first node of every location. -/
def Node.distinct : List Node → List Node
  | [] => []
  | node :: rest => node :: (distinct rest).filter (·.location != node.location)

namespace Json

/-- Remove what lies at each location, one after the other. A location that is not there is passed
    over. -/
def removeAll (locations : List Location) (document : Json) : Json :=
  locations.foldl (fun document location => (removeAt? location document).getD document) document

/-- Replace what lies at each location by what the caller makes of it, one after the other, and
    count the replacements. -/
def replaceAll {σ : Type} (change : Json → StateM σ Json) :
    List Location → Json → StateM σ (Nat × Json)
  | [], document => pure (0, document)
  | location :: rest, document => do
      match document.at? location with
      | none => replaceAll change rest document
      | some old =>
          let new ← change old
          let (count, result) ←
            replaceAll change rest ((replaceAt? location new document).getD document)
          return (count + 1, result)

end Json

/-- Where a value is put inside a container. -/
inductive Slot where
  /-- As the member of a name. -/
  | member (name : String)
  /-- In front of the item at an index; negative ones count from behind the last item. -/
  | position (index : Int)
  deriving DecidableEq, Repr

namespace Slot

/-- The slot that the last term of a query names. -/
def ofTerm? : Term → Option Slot
  | .name name => some (.member name)
  | .index index => some (.position index)
  | _ => none

/-- The position that an index names among `length` items, the place behind the last included. -/
def place? (length : Nat) (index : Int) : Option Nat :=
  let place := if 0 ≤ index then index else length + 1 + index
  if 0 ≤ place ∧ place ≤ length then some place.toNat else none

/-- The container with a value in the slot, unless it is of the wrong type, has a member of that
    name already, or is too short. -/
def fill? (slot : Slot) (value : Json) : Json → Option Json
  | .object members =>
      match slot with
      | .member name =>
          if (Json.lookup name members).isNone then
            some (.object (Json.insertMember name value members))
          else none
      | .position _ => none
  | .array items =>
      match slot with
      | .position index =>
          (place? items.length index).map fun place => .array (items.insertIdx place value)
      | .member _ => none
  | _ => none

/-- Put a value into the slot of the containers at the given locations, one after the other, and
    count the containers that took it. -/
def fillAll (slot : Slot) (value : Json) : List Location → Json → Nat × Json
  | [], document => (0, document)
  | location :: rest, document =>
      match Json.updateAt? (slot.fill? value) location document with
      | none => fillAll slot value rest document
      | some filled =>
          let (count, result) := fillAll slot value rest filled
          (count + 1, result)

end Slot

namespace Query

/-- Remove the selected nodes that the caller accepts. The caller sees the document as it is before
    anything is removed; the removed values, each once, come in the order of their first match. The
    root is never removed. -/
def deleteIf {σ : Type} (ask : Node → StateM σ Bool) (q : Query) (document : Json) :
    StateM σ (List Json × Json) := do
  let accepted ← Node.accepted ask (q.run document)
  let marked := (Node.distinct accepted).filter fun node => !node.location.isEmpty
  let order := Location.descending (marked.map Node.location)
  return (marked.map Node.value, document.removeAll order)

def delete (q : Query) (document : Json) : List Json × Json :=
  (Id.run (StateT.run (deleteIf (fun _ => pure true) q document) ())).1

/-- Replace every selected node by what the caller makes of its present value; what lies inside a
    selected node is replaced before it. Gives the number of replacements. -/
def replaceWith {σ : Type} (change : Json → StateM σ Json) (q : Query) (document : Json) :
    StateM σ (Nat × Json) :=
  Json.replaceAll change
    (Location.descending ((Node.distinct (q.run document)).map Node.location)) document

/-- The slot that a query names: only one that ends in a name or an index names a slot. -/
def slot? (q : Query) : Option Slot := q.links.getLast?.bind Slot.ofTerm?

/-- Put a value into the slot that the query names in every container it reaches. Gives the number
    of containers that took the value. -/
def insert (q : Query) (value document : Json) : Nat × Json :=
  match q.slot?, q.parent? with
  | some slot, some parent =>
      slot.fillAll value
        (Location.descending ((Node.distinct (parent.run document)).map Node.location)) document
  | _, _ => (0, document)

end Query

end JsonQuery

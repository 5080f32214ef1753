import JsonQuery.Location

/-! # Nodes

A node is a value of a document together with where it was found. Everything a query does is a step
from a node to nodes below it.
-/

namespace JsonQuery

/-- A value in a document. -/
structure Node where
  /-- The keys that lead here, the last one first. -/
  trail : List Key
  /-- The value. -/
  value : Json
  /-- The container the value lies in; the root lies in none. -/
  parent : Option Json
  deriving Repr

namespace Node

def root (document : Json) : Node := ⟨[], document, none⟩

def child (node : Node) (key : Key) (value : Json) : Node :=
  ⟨key :: node.trail, value, some node.value⟩

def location (node : Node) : Location := node.trail.reverse

/-- The last key; the root has none. -/
def key? (node : Node) : Option Key := node.trail.head?

def path (node : Node) : String := node.location.text

def member? (node : Node) (name : String) : Option Node :=
  match node.value with
  | .object members => (Json.lookup name members).map (node.child (.name name))
  | _ => none

/-- An index counted from the end if negative, unless it misses the `length` items. -/
def normalizeIndex? (length : Nat) (index : Int) : Option Nat :=
  let absolute := if index < 0 then length + index else index
  if 0 ≤ absolute ∧ absolute < length then some absolute.toNat else none

def itemAt? (node : Node) (items : List Json) (position : Nat) : Option Node :=
  (items[position]?).map (node.child (.index position))

/-- The item at an index, which may count from the end. -/
def item? (node : Node) (index : Int) : Option Node :=
  match node.value with
  | .array items =>
      match normalizeIndex? items.length index with
      | some position => node.itemAt? items position
      | none => none
  | _ => none

/-- The given items, the first of which has the index `position`. -/
def itemsFrom (node : Node) (position : Nat) : List Json → List Node
  | [] => []
  | item :: rest => node.child (.index position) item :: itemsFrom node (position + 1) rest

/-- All items by index, or all members by name. -/
def children (node : Node) : List Node :=
  match node.value with
  | .array items => node.itemsFrom 0 items
  | .object members => members.map fun (name, value) => node.child (.name name) value
  | _ => []

mutual
/-- A value and all values below it, each before what lies inside it. -/
def below (trail : List Key) (parent : Option Json) : Json → List Node
  | .array items => ⟨trail, .array items, parent⟩ :: belowItems trail (.array items) 0 items
  | .object members =>
      ⟨trail, .object members, parent⟩ :: belowMembers trail (.object members) members
  | scalar => [⟨trail, scalar, parent⟩]

def belowItems (trail : List Key) (container : Json) (position : Nat) : List Json → List Node
  | [] => []
  | item :: rest =>
      below (.index position :: trail) (some container) item ++
        belowItems trail container (position + 1) rest

def belowMembers (trail : List Key) (container : Json) : List (String × Json) → List Node
  | [] => []
  | (name, value) :: rest =>
      below (.name name :: trail) (some container) value ++ belowMembers trail container rest
end

/-- The node and all nodes below it, each before what lies inside it. -/
def selfAndBelow (node : Node) : List Node := below node.trail node.parent node.value

@[simp] theorem location_root (document : Json) : (root document).location = [] := rfl

@[simp] theorem location_child (node : Node) (key : Key) (value : Json) :
    (node.child key value).location = node.location ++ [key] := by
  simp [child, location]

@[simp] theorem value_child (node : Node) (key : Key) (value : Json) :
    (node.child key value).value = value := rfl

end Node

end JsonQuery

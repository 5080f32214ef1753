import JsonQuery.Json
import JsonQuery.Text.Quoted

/-! # Locations in a document

A location is the list of keys that lead from the root to a value. Locations are ordered like words:
a container comes before everything inside it, names come before indices, and items follow one
another by index. Each location has one text, its normalized path.
-/

namespace JsonQuery

/-- One edge from a container to a value inside. -/
inductive Key where
  /-- The member of an object. -/
  | name (name : String)
  /-- The item of an array. -/
  | index (index : Nat)
  deriving DecidableEq, Repr

namespace Key

/-- Names come before indices. -/
def cmp : Key → Key → Ordering
  | .name a, .name b => compare a b
  | .name _, .index _ => .lt
  | .index _, .name _ => .gt
  | .index a, .index b => compare a b

def text : Key → String
  | .name member => "[" ++ Text.quoted member ++ "]"
  | .index position => "[" ++ natText position ++ "]"

end Key

/-- The keys from the root down to a value. -/
abbrev Location := List Key

namespace Location

/-- The order of words, with keys for letters. -/
def cmp : Location → Location → Ordering
  | [], [] => .eq
  | [], _ :: _ => .lt
  | _ :: _, [] => .gt
  | a :: as, b :: bs => (a.cmp b).then (cmp as bs)

/-- Whether `b` may stand before `a` in descending order. -/
def precedes (a b : Location) : Bool := cmp b a != .gt

/-- Locations in descending order: what lies inside a container, and later items, come first. -/
def descending (locations : List Location) : List Location := locations.mergeSort precedes

def keysText : List Key → String
  | [] => ""
  | key :: rest => key.text ++ keysText rest

/-- The normalized path. -/
def text (location : Location) : String := "$" ++ keysText location

end Location

namespace Json

def child? : Json → Key → Option Json
  | .object members, .name name => lookup name members
  | .array items, .index index => items[index]?
  | _, _ => none

def at? (value : Json) : Location → Option Json
  | [] => some value
  | key :: rest =>
      match value.child? key with
      | some inner => inner.at? rest
      | none => none

/-- Change the member of a name, if it is there and can be changed. -/
def updateMember? (name : String) (change : Json → Option Json) :
    List (String × Json) → Option (List (String × Json))
  | [] => none
  | (key, value) :: rest =>
      if key = name then (change value).map fun new => (key, new) :: rest
      else (updateMember? name change rest).map ((key, value) :: ·)

def updateItem? (change : Json → Option Json) : Nat → List Json → Option (List Json)
  | _, [] => none
  | 0, item :: rest => (change item).map (· :: rest)
  | index + 1, item :: rest => (updateItem? change index rest).map (item :: ·)

def updateAt? (change : Json → Option Json) : Location → Json → Option Json
  | [], value => change value
  | .name name :: rest, .object members =>
      (updateMember? name (updateAt? change rest) members).map .object
  | .index index :: rest, .array items =>
      (updateItem? (updateAt? change rest) index items).map .array
  | _ :: _, _ => none

def removeChild? (key : Key) : Json → Option Json
  | .object members =>
      match key with
      | .name name =>
          if (lookup name members).isSome then
            some (.object (members.filter fun member => member.1 != name))
          else none
      | .index _ => none
  | .array items =>
      match key with
      | .index index => if index < items.length then some (.array (items.eraseIdx index)) else none
      | .name _ => none
  | _ => none

/-- The document without the value at a location. The root lies in no container and cannot be
    removed. -/
def removeAt? (location : Location) (value : Json) : Option Json :=
  match location.getLast? with
  | some key => updateAt? (removeChild? key) location.dropLast value
  | none => none

def replaceAt? (location : Location) (new : Json) (value : Json) : Option Json :=
  updateAt? (fun _ => some new) location value

/-- Descent composes: the keys of a longer location are followed one part after the other. -/
theorem at?_append (value : Json) (first second : Location) :
    value.at? (first ++ second) = (value.at? first).bind fun inner => inner.at? second := by
  induction first generalizing value with
  | nil => simp [at?]
  | cons key rest ih =>
      simp only [List.cons_append, at?]
      cases value.child? key with
      | none => simp
      | some inner => simpa using ih inner

end Json

end JsonQuery

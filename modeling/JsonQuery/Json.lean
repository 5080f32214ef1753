import JsonQuery.Number

/-! # JSON values

An object is the list of its members in increasing order of their names, each name once; every
function that builds an object keeps this order, and `Json.Sorted` states it for a whole value.
-/

namespace JsonQuery

inductive Json where
  | null
  | bool (value : Bool)
  | number (value : Number)
  | string (value : String)
  /-- The items of an array. -/
  | array (items : List Json)
  /-- The members of an object, ordered by name. -/
  | object (members : List (String × Json))
  deriving Repr

instance : Inhabited Json := ⟨.null⟩

namespace Json

/-- The six types of values. -/
inductive Kind where
  | null
  | boolean
  | number
  | string
  | array
  | object
  deriving DecidableEq, Repr

def Kind.name : Kind → String
  | .null => "null"
  | .boolean => "boolean"
  | .number => "number"
  | .string => "string"
  | .array => "array"
  | .object => "object"

def kind : Json → Kind
  | .null => .null
  | .bool _ => .boolean
  | .number _ => .number
  | .string _ => .string
  | .array _ => .array
  | .object _ => .object

def int (value : Int) : Json := .number (.int value)

/-- The first member of a name. -/
def lookup (name : String) : List (String × Json) → Option Json
  | [] => none
  | (key, value) :: rest => if key = name then some value else lookup name rest

/-- Put a member where its name belongs, in place of a member of the same name. -/
def insertMember (name : String) (value : Json) : List (String × Json) → List (String × Json)
  | [] => [(name, value)]
  | (key, old) :: rest =>
      if name < key then (name, value) :: (key, old) :: rest
      else if name = key then (key, value) :: rest
      else (key, old) :: insertMember name value rest

/-- The object of the given members; of several members with one name the last one counts. -/
def ofMembers (members : List (String × Json)) : Json :=
  .object (members.foldl (fun sorted (name, value) => insertMember name value sorted) [])

/-- The names come in increasing order, each once. -/
def NamesSorted (members : List (String × Json)) : Prop :=
  (members.map Prod.fst).Pairwise (· < ·)

instance (members : List (String × Json)) : Decidable (NamesSorted members) :=
  inferInstanceAs (Decidable ((members.map Prod.fst).Pairwise (· < ·)))

mutual
/-- Every object inside the value has its members in order. -/
def Sorted : Json → Prop
  | .null | .bool _ | .number _ | .string _ => True
  | .array items => SortedItems items
  | .object members => NamesSorted members ∧ SortedMembers members

/-- Every item is ordered inside. -/
def SortedItems : List Json → Prop
  | [] => True
  | item :: rest => item.Sorted ∧ SortedItems rest

/-- Every member's value is ordered inside. -/
def SortedMembers : List (String × Json) → Prop
  | [] => True
  | (_, value) :: rest => value.Sorted ∧ SortedMembers rest
end

@[simp] theorem lookup_nil (name : String) : lookup name [] = none := rfl

theorem lookup_insertMember_self (name : String) (value : Json) (members : List (String × Json)) :
    lookup name (insertMember name value members) = some value := by
  induction members with
  | nil => simp [insertMember, lookup]
  | cons member rest ih =>
      obtain ⟨key, old⟩ := member
      simp only [insertMember]
      split
      · simp [lookup]
      · split
        · next same => simp [lookup, same]
        · next different => simp [lookup, Ne.symm different, ih]

theorem lookup_insertMember_of_ne {name other : String} (different : other ≠ name) (value : Json)
    (members : List (String × Json)) :
    lookup other (insertMember name value members) = lookup other members := by
  induction members with
  | nil => simp [insertMember, lookup, Ne.symm different]
  | cons member rest ih =>
      obtain ⟨key, old⟩ := member
      simp only [insertMember]
      split
      · simp [lookup, Ne.symm different]
      · split
        · next same => subst same; simp [lookup, Ne.symm different]
        · simp [lookup, ih]

end Json

end JsonQuery

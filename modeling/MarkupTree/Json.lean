import MarkupTree.Value

/-!
# JSON documents

JSON documents as data, with the members of an object in order, and what a document is as a value:
arrays become lists and objects become mappings from texts.
-/

namespace MarkupTree

/-- A JSON document. -/
inductive Json where
  /-- The absent value. -/
  | null
  /-- A truth value. -/
  | bool (b : Bool)
  /-- A number without fraction and exponent. -/
  | int (i : Int)
  /-- Any other number. -/
  | float (x : Number.Binary64)
  /-- A string. -/
  | text (s : String)
  /-- An array. -/
  | array (items : List Json)
  /-- An object, with its members in order. -/
  | object (members : List (String × Json))
deriving Inhabited

namespace Json

mutual

/-- A document as a value. -/
def toValue : Json → Value
  | .null => .null
  | .bool b => .bool b
  | .int i => .int i
  | .float x => .float x
  | .text s => .text s
  | .array items => .list (toValues items)
  | .object members => .mapping (toEntries members)

/-- The items of an array as values. -/
def toValues : List Json → List Value
  | [] => []
  | item :: items => item.toValue :: toValues items

/-- The members of an object as entries of a mapping. -/
def toEntries : List (String × Json) → List (Value × Value)
  | [] => []
  | (name, value) :: members => (.text name, value.toValue) :: toEntries members

end

@[simp] theorem toValues_eq_map (items : List Json) : toValues items = items.map toValue := by
  induction items with
  | nil => rfl
  | cons item items ih => simp [toValues, ih]

@[simp] theorem toEntries_eq_map (members : List (String × Json)) :
    toEntries members = members.map fun (name, value) => (.text name, value.toValue) := by
  induction members with
  | nil => rfl
  | cons member members ih => simp [toEntries, ih]

/-- Puts a member into an object: a name that is there keeps its place and takes the new value, any
other name comes last. -/
def insertMember {α : Type} :
    List (String × α) → (name : String) → (value : α) → List (String × α)
  | [], name, value => [(name, value)]
  | (name', value') :: members, name, value =>
    if name' = name then (name', value) :: members
    else (name', value') :: insertMember members name value

/-- The object of the given members, put in one after the other. -/
def ofMembers (members : List (String × Json)) : Json :=
  .object (members.foldl (fun acc (name, value) => insertMember acc name value) [])

/-- The value of the first member of a given name. -/
def member? {α : Type} (name : String) (members : List (String × α)) : Option α :=
  members.lookup name

end Json

end MarkupTree

import MarkupTree.Json

/-!
# Data

What a library that checks data is handed and what it makes of it. Besides the values of JSON
documents there are tuples, and records: the instances of declared classes.
-/

namespace MarkupTree

namespace Schema

/-- Data that is checked, or made by a check. -/
inductive Datum where
  /-- The absent value. -/
  | null
  /-- A truth value. -/
  | bool (b : Bool)
  /-- An integer. -/
  | int (i : Int)
  /-- A number with a fraction. -/
  | float (x : Number.Binary64)
  /-- A string. -/
  | text (s : String)
  /-- A list. -/
  | list (items : List Datum)
  /-- A tuple. -/
  | tuple (items : List Datum)
  /-- A mapping from names, with its members in order. -/
  | mapping (members : List (String × Datum))
  /-- An instance of the class of the given name, with the values of its fields. -/
  | record (className : String) (fields : List (String × Datum))
deriving Inhabited

namespace Datum

/-- The items of a list or a tuple. -/
def items? : Datum → Option (List Datum)
  | .list items => some items
  | .tuple items => some items
  | _ => none

/-- Whether data is an instance of a class. -/
def isRecord : Datum → Bool
  | .record .. => true
  | _ => false

/-- The name of the type of data in messages. -/
def typeName : Datum → String
  | .null => "NoneType"
  | .bool _ => "bool"
  | .int _ => "int"
  | .float _ => "float"
  | .text _ => "str"
  | .list _ => "list"
  | .tuple _ => "tuple"
  | .mapping _ => "dict"
  | .record className _ => className

mutual

/-- Data as a document: tuples become arrays, and records the objects of their fields. -/
def toJson : Datum → Json
  | .null => .null
  | .bool b => .bool b
  | .int i => .int i
  | .float x => .float x
  | .text s => .text s
  | .list items => .array (toJsonAll items)
  | .tuple items => .array (toJsonAll items)
  | .mapping members => .object (toJsonMembers members)
  | .record _ fields => .object (toJsonMembers fields)

/-- The items of a list as documents. -/
def toJsonAll : List Datum → List Json
  | [] => []
  | d :: ds => d.toJson :: toJsonAll ds

/-- The members of a mapping as those of an object. -/
def toJsonMembers : List (String × Datum) → List (String × Json)
  | [] => []
  | (name, d) :: members => (name, d.toJson) :: toJsonMembers members

end

/-- Data in which there is no record, however deep inside. -/
inductive Plain : Datum → Prop
  | null : Plain .null
  | bool (b) : Plain (.bool b)
  | int (i) : Plain (.int i)
  | float (x) : Plain (.float x)
  | text (s) : Plain (.text s)
  | list {items} (h : ∀ item ∈ items, Plain item) : Plain (.list items)
  | tuple {items} (h : ∀ item ∈ items, Plain item) : Plain (.tuple items)
  | mapping {members} (h : ∀ member ∈ members, Plain member.2) : Plain (.mapping members)

end Datum

end Schema

namespace Json

open Schema (Datum)

mutual

/-- A document as data. -/
def toDatum : Json → Datum
  | .null => .null
  | .bool b => .bool b
  | .int i => .int i
  | .float x => .float x
  | .text s => .text s
  | .array items => .list (toData items)
  | .object members => .mapping (membersToData members)

/-- The items of an array as data. -/
def toData : List Json → List Datum
  | [] => []
  | item :: items => item.toDatum :: toData items

/-- The members of an object as data. -/
def membersToData : List (String × Json) → List (String × Datum)
  | [] => []
  | (name, value) :: members => (name, value.toDatum) :: membersToData members

end

@[simp] theorem toData_eq_map (items : List Json) : toData items = items.map toDatum := by
  induction items with
  | nil => rfl
  | cons item items ih => simp [toData, ih]

@[simp] theorem membersToData_eq_map (members : List (String × Json)) :
    membersToData members = members.map fun (name, value) => (name, value.toDatum) := by
  induction members with
  | nil => rfl
  | cons member members ih => simp [membersToData, ih]

end Json

end MarkupTree

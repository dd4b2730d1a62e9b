import MarkupTree.Schema.Library

/-!
# A checker of data

A library as it is documented, without limits. Data of a wrong type has one defect, which depends on
the type that is wanted; data of the right type is checked part by part.
-/

namespace MarkupTree.Schema

/-! ## Single values -/

/-- The defect of data that has nothing to do with a type. -/
def FieldType.mismatch : FieldType → DefectKind
  | .literal _ => .literalError
  | .string _ => .stringType
  | .list _ => .listType
  | .pair .. => .tupleType
  | .union => .attributesType

/-- Data that no type wants. -/
def refuse (type : FieldType) : Checked Datum := .defect type.mismatch

/-- What a string is for a type. -/
def textOutcome (s : String) : Check
  | .literal t => if s = t then .ok (.text s) else .defect .literalError
  | .string least => if least ≤ s.length then .ok (.text s) else .defect .stringTooShort
  | type => refuse type

/-- What an item of a list or a tuple is for a type; an absent item is a defect. -/
def itemOutcome (items : List Check) (i : Nat) (type : FieldType) : Checked Datum :=
  Checked.under (.index i) <|
    match items[i]? with
    | some check => check type
    | none => .defect .missing

/-- What a list or a tuple is for a type, from the checks of its items. Too many items of a pair
hide the defects that the items have. -/
def sequenceOutcome (items : List Check) : Check
  | .list type => (Checked.items (· type) 0 items).map .list
  | .pair first second =>
    if 2 < items.length then .defect .tooLong
    else (Checked.all [itemOutcome items 0 first, itemOutcome items 1 second]).map .tuple
  | type => refuse type

/-! ## Unions -/

/-- The class that data with the given discriminator belongs to, and its tag. -/
def Union.dispatch (union : Union) : (discriminator : Option Datum) → Checked (String × Class)
  | none => .defect .tagNotFound
  | some (.text tag) =>
    match union.member? tag with
    | some cls => .ok (tag, cls)
    | none => .defect .tagInvalid
  | some _ => .defect .tagInvalid

/-- What a mapping is for a type, from its discriminator and the checks of its members. -/
def mappingOutcome (union : Union) (discriminator : Option Datum)
    (members : List (String × Check)) : Check
  | .union => do
    let (tag, cls) ← union.dispatch discriminator
    (cls.outcome members).under (.field tag)
  | type => refuse type

/-- What a record is for a type. -/
def recordOutcome (union : Union) (className : String) (fields : List (String × Datum)) : Check
  | .union => do
    let (tag, cls) ← union.dispatch (Json.member? union.discriminator fields)
    if cls.name = className then .ok (.record className fields)
    else Checked.under (.field tag) (refuse .union)
  | type => refuse type

/-! ## All data -/

namespace Checker

mutual

/-- Checks data against a type. -/
def check (union : Union) : Datum → Check
  | .text s => textOutcome s
  | .list items => sequenceOutcome (checkAll union items)
  | .tuple items => sequenceOutcome (checkAll union items)
  | .mapping members =>
    mappingOutcome union (Json.member? union.discriminator members) (checkMembers union members)
  | .record className fields => recordOutcome union className fields
  | .null | .bool _ | .int _ | .float _ => refuse

/-- The checks of the items of a list. -/
def checkAll (union : Union) : List Datum → List Check
  | [] => []
  | d :: ds => check union d :: checkAll union ds

/-- The checks of the members of a mapping. -/
def checkMembers (union : Union) : List (String × Datum) → List (String × Check)
  | [] => []
  | (name, d) :: members => (name, check union d) :: checkMembers union members

end

@[simp] theorem checkAll_eq_map (union : Union) (ds : List Datum) :
    checkAll union ds = ds.map (check union) := by
  induction ds with
  | nil => rfl
  | cons d ds ih => simp [checkAll, ih]

@[simp] theorem checkMembers_eq_map (union : Union) (members : List (String × Datum)) :
    checkMembers union members = members.map fun (name, d) => (name, check union d) := by
  induction members with
  | nil => rfl
  | cons member members ih => simp [checkMembers, ih]

mutual

/-- Takes records apart. -/
def dump : Datum → Datum
  | .list items => .list (dumpAll items)
  | .tuple items => .tuple (dumpAll items)
  | .mapping members => .mapping (dumpMembers members)
  | .record _ fields => .mapping (dumpMembers fields)
  | d => d

/-- The items of a list without records. -/
def dumpAll : List Datum → List Datum
  | [] => []
  | d :: ds => dump d :: dumpAll ds

/-- The members of a mapping without records. -/
def dumpMembers : List (String × Datum) → List (String × Datum)
  | [] => []
  | (name, d) :: members => (name, dump d) :: dumpMembers members

end

@[simp] theorem dumpAll_eq_map (ds : List Datum) : dumpAll ds = ds.map dump := by
  induction ds with
  | nil => rfl
  | cons d ds ih => simp [dumpAll, ih]

@[simp] theorem dumpMembers_eq_map (members : List (String × Datum)) :
    dumpMembers members = members.map fun (name, d) => (name, dump d) := by
  induction members with
  | nil => rfl
  | cons member members ih => simp [dumpMembers, ih]

end Checker

/-- The checker as a library. -/
def checker : Library where
  check union type d := Checker.check union d type
  construct union cls members := cls.outcome (Checker.checkMembers union members)
  dump := Checker.dump

end MarkupTree.Schema

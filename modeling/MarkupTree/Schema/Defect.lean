/-!
# Defects

What a check of a document can find wrong, where, and how the defects of several checks are
collected: a check yields either a result or all defects of its parts, in order.
-/

namespace MarkupTree.Schema

/-! ## Defects -/

/-- What is wrong with a part of a document. -/
inductive DefectKind where
  /-- A required field or item is absent. -/
  | missing
  /-- A field that the kind does not have. -/
  | extraForbidden
  /-- Not a string. -/
  | stringType
  /-- An empty string where a name is wanted. -/
  | stringTooShort
  /-- Not an array. -/
  | listType
  /-- Not an array, where a pair is wanted. -/
  | tupleType
  /-- More than two items, where a pair is wanted. -/
  | tooLong
  /-- Another `kind` than that of the node. -/
  | literalError
  /-- Not an object, where a node is wanted. -/
  | attributesType
  /-- An object without `kind`. -/
  | tagNotFound
  /-- A `kind` that no node has. -/
  | tagInvalid
  /-- An attempt to change a node. -/
  | frozen
deriving DecidableEq

/-- The name of a defect. -/
def DefectKind.name : DefectKind → String
  | .missing => "missing"
  | .extraForbidden => "extra_forbidden"
  | .stringType => "string_type"
  | .stringTooShort => "string_too_short"
  | .listType => "list_type"
  | .tupleType => "tuple_type"
  | .tooLong => "too_long"
  | .literalError => "literal_error"
  | .attributesType => "model_attributes_type"
  | .tagNotFound => "union_tag_not_found"
  | .tagInvalid => "union_tag_invalid"
  | .frozen => "frozen_instance"

/-- A step on the way to a part of a document. -/
inductive Step where
  /-- Into a field, or into the kind of a node. -/
  | field (name : String)
  /-- Into an item. -/
  | index (i : Nat)
deriving DecidableEq

/-- A defect and the way to where it was found. -/
structure Defect where
  /-- What is wrong. -/
  kind : DefectKind
  /-- The steps from the whole document to the place. -/
  location : List Step
deriving DecidableEq

/-- The same defect, seen from a step further out. -/
def Defect.under (d : Defect) (step : Step) : Defect := { d with location := step :: d.location }

/-! ## Checks -/

/-- What a check yields: a result, or all defects. -/
abbrev Checked (α : Type) := Except (List Defect) α

namespace Checked

variable {α β : Type}

/-- Fails with a single defect at the place of the check. -/
def defect (kind : DefectKind) : Checked α := .error [⟨kind, []⟩]

/-- The same check, seen from a step further out. -/
def under (step : Step) (c : Checked α) : Checked α := c.mapError (List.map (·.under step))

/-- Two checks, one after the other: the defects of both are collected. -/
def both : Checked α → Checked β → Checked (α × β)
  | .ok a, .ok b => .ok (a, b)
  | .error ds, .ok _ => .error ds
  | .ok _, .error es => .error es
  | .error ds, .error es => .error (ds ++ es)

/-- All checks of a list, one after the other. -/
def all : List (Checked α) → Checked (List α)
  | [] => .ok []
  | c :: cs => (both c (all cs)).map fun (a, as) => a :: as

/-- The same check on all items of a list, which begin with item `i`. -/
def items (check : β → Checked α) (i : Nat) : List β → Checked (List α)
  | [] => .ok []
  | b :: bs =>
    (both ((check b).under (.index i)) (items check (i + 1) bs)).map fun (a, as) => a :: as

@[simp] theorem both_ok (a : α) (b : β) : both (.ok a) (.ok b) = .ok (a, b) := rfl

@[simp] theorem under_ok (step : Step) (a : α) : under step (.ok a) = .ok a := rfl

/-- Two checks are passed when each of them is. -/
theorem both_eq_ok_iff {c : Checked α} {d : Checked β} {a : α} {b : β} :
    both c d = .ok (a, b) ↔ c = .ok a ∧ d = .ok b := by
  cases c <;> cases d <;> simp [both]

end Checked

end MarkupTree.Schema

import MarkupTree.Schema.Checker

/-!
# The schema of nodes

Nodes written as JSON objects, checked by the library that the program comes with. The `kind` of an
object says which node it is and which fields it has; attributes and children may be left out, other
fields are refused. A check collects all defects, in the order of the fields, each with the place
where it was found.
-/

namespace MarkupTree.Schema

/-- The members of an object. -/
abbrev Members := List (String × Json)

/-- The node of a record that a check has made. There is no other record among the results of a
check of nodes. -/
def nodeOf (record : Datum) : Checked Node :=
  match record.toNode? with
  | some n => .ok n
  | none => .error []

/-- The node that a document spells; the kind decides which. -/
def validate (document : Json) : Checked Node := do
  nodeOf (← checker.check nodes .union document.toDatum)

/-- A node of a given kind from the members of an object. -/
def construct (kind : NodeKind) (members : Members) : Checked Node := do
  nodeOf (← checker.construct nodes kind.declaration (Json.membersToData members))

/-- The kind of an object that has no other field and whose kind may be any string. -/
def checkBare (members : Members) : Checked String := do
  match ← checker.construct nodes nodeBase (Json.membersToData members) with
  | .record _ [(_, .text kind)] => return kind
  | _ => .error []

/-- The refusal to change a field of a node. -/
def refuseAssignment (field : String) : Defect := ⟨.frozen, [.field field]⟩

/-- A node as a document. -/
def dump (n : Node) : Json := (checker.dump (.ofNode n)).toJson

end MarkupTree.Schema

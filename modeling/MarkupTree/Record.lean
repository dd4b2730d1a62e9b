import MarkupTree.Reading
import MarkupTree.Schema.Library

/-!
# Records of nodes

A node is well formed by its type. The program keeps its nodes as records, which a library makes and
checks (`MarkupTree.Schema.Library`), and finds out the class of every record that it writes. So
reading a value and writing what was read can go wrong in more ways than a value can be malformed
(`Failure`).
-/

namespace MarkupTree

namespace Record

open Schema

/-! ## Failures -/

/-- What can go wrong between a value and its markup. -/
inductive Failure where
  /-- The value, or one inside it, is no node. -/
  | invalidNode (e : InvalidNode)
  /-- The value, or one inside it, is no node, and the system refuses to show it in the report. -/
  | unshown
  /-- The library finds fault with the fields of a record. -/
  | schema (defects : List Defect)
  /-- A record that is written lacks a field, or has something else in it. -/
  | field (name : String)
  /-- What is to be written is no record of a node. -/
  | cannotSerialize (message : String)

/-- The same failure, seen from a value that holds the failing one in its slot `i`. -/
def Failure.under (failure : Failure) (i : Int) : Failure :=
  match failure with
  | .invalidNode e => .invalidNode (e.under i)
  | failure => failure

/-- The failure of a value that is no node. Its report shows the offending value. -/
def report (limit : Option Nat) (e : InvalidNode) : Failure :=
  if e.node.Shown limit then .invalidNode e else .unshown

/-! ## Reading -/

section Reading

variable (lib : Library) (limit : Option Nat)

/-- Makes a record of a node. The library checks the fields. -/
def make (kind : NodeKind) (fields : List (String × Datum)) : Except Failure Datum :=
  (lib.construct nodes kind.declaration fields).mapError .schema

mutual

/-- Reads a value as a record. -/
def read : Value → Except Failure Datum
  | .text content => make lib .text [("text", .text content)]
  | .sequence kind (head :: second :: rest) =>
    let rejected (reason : Reason) : Failure :=
      report limit (Fault.atPath ⟨reason, .sequence kind (head :: second :: rest)⟩ [])
    match head.asHead with
    | .raw =>
      match Value.rawPayload? second with
      | some content => make lib .raw [("text", .text content)]
      | none => .error (rejected .rawPayload)
    | .comment =>
      match Value.commentPayload? rest with
      | some content => make lib .comment [("text", .text content)]
      | none => .error (rejected .commentPayload)
    | .tag tag => do
      let attributes ← second.readAttributes.mapError fun fault => report limit (fault.atPath [1])
      let children ← readAll 2 rest
      make lib .element [("tag", .text tag.name),
        ("attributes", .list ((Value.attributesByName attributes).map attributeDatum)),
        ("children", .list children)]
    | .other => .error (rejected .tagNotSymbol)
  | .sequence kind items =>
    .error (report limit (Fault.atPath ⟨.tooShort, .sequence kind items⟩ []))
  | v => .error (report limit (Fault.atPath ⟨.notNode, v⟩ []))

/-- Reads the values in the slots from `i` on as records, from left to right. -/
def readAll (i : Nat) : List Value → Except Failure (List Datum)
  | [] => .ok []
  | v :: vs => do
    let first ← (read v).mapError (·.under i)
    let others ← readAll (i + 1) vs
    return first :: others

end

end Reading

/-! ## Writing -/

/-- The text in a field. -/
def textField (name : String) (fields : List (String × Datum)) : Except Failure String :=
  match Json.member? name fields with
  | some (.text s) => .ok s
  | _ => .error (.field name)

/-- An attribute as it stands in a record. -/
def attributeOf (d : Datum) : Except Failure (String × String) :=
  match d.toAttribute? with
  | some pair => .ok pair
  | none => .error (.field "attributes")

/-- The attributes of an element. -/
def attributesField (fields : List (String × Datum)) : Except Failure (List (String × String)) :=
  match Json.member? "attributes" fields with
  | some (.list items) => items.mapM attributeOf
  | _ => .error (.field "attributes")

/-- An element whose children are written already. -/
def elementMarkup (tag : String) (attributes : List (String × String)) (children : List String) :
    String :=
  if children = [] then "<" ++ tag ++ Markup.attributesText attributes ++ "/>"
  else "<" ++ tag ++ Markup.attributesText attributes ++ ">" ++ String.join children ++
    "</" ++ tag ++ ">"

/-- The refusal to write what is no record of a node. -/
def refuse (d : Datum) : Failure := .cannotSerialize ("Cannot serialize " ++ d.typeName)

mutual

/-- A record as markup. What is no record of a node is refused, as deep inside as it may be. -/
def write : Datum → Except Failure String
  | .record className fields =>
    match NodeKind.ofClassName? className with
    | some .text => do
      let content ← textField "text" fields
      return Markup.escape content
    | some .raw => textField "text" fields
    | some .comment => do
      let content ← textField "text" fields
      return "<!-- " ++ content ++ " -->"
    | some .element => do
      let tag ← textField "tag" fields
      let attributes ← attributesField fields
      let children ← writeChildren fields
      return elementMarkup tag attributes children
    | none => .error (refuse (.record className fields))
  | d => .error (refuse d)

/-- The children of an element, each as markup. -/
def writeChildren : List (String × Datum) → Except Failure (List String)
  | [] => .error (.field "children")
  | (name, .list items) :: fields =>
    if name = "children" then writeAll items else writeChildren fields
  | (name, _) :: fields =>
    if name = "children" then .error (.field name) else writeChildren fields

/-- Records as markup, one by one. -/
def writeAll : List Datum → Except Failure (List String)
  | [] => .ok []
  | d :: ds => do
    let first ← write d
    let others ← writeAll ds
    return first :: others

end

/-- A value as markup by way of a record. -/
def toMarkup (lib : Library) (limit : Option Nat) (v : Value) : Except Failure String := do
  let record ← read lib limit v
  write record

end Record

end MarkupTree

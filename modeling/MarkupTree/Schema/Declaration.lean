import MarkupTree.Node
import MarkupTree.Schema.Datum
import MarkupTree.Schema.Defect

/-!
# Declarations

How classes of records are declared: fields with their types and defaults, and a union of classes
that a field, the discriminator, tells apart. The nodes are declared as four classes, one for each
kind, and their union.
-/

namespace MarkupTree.Schema

/-! ## Classes -/

/-- The type of a field. -/
inductive FieldType where
  /-- The given string and nothing else. -/
  | literal (s : String)
  /-- A string of at least the given length. -/
  | string (least : Nat)
  /-- A list. -/
  | list (item : FieldType)
  /-- A tuple of two items. -/
  | pair (first second : FieldType)
  /-- A record of the union that is being declared. -/
  | union
deriving DecidableEq

/-- A field of a class. -/
structure Field where
  /-- Its name. -/
  name : String
  /-- Its type. -/
  type : FieldType
  /-- What it holds when it is left out, if it may be left out. -/
  default? : Option Datum

/-- A class of records. Other fields than the declared ones are forbidden. -/
structure Class where
  /-- Its name. -/
  name : String
  /-- Its fields, in the order of their declaration. -/
  fields : List Field

/-- A union of classes. -/
structure Union where
  /-- The field that tells the classes apart. -/
  discriminator : String
  /-- The classes. -/
  members : List Class

/-- The tag of a class: the literal that the discriminator has to be. -/
def Class.tag? (cls : Class) (discriminator : String) : Option String :=
  match cls.fields.find? (·.name = discriminator) with
  | some ⟨_, .literal tag, _⟩ => some tag
  | _ => none

/-- The class of a union that has the given tag. -/
def Union.member? (union : Union) (tag : String) : Option Class :=
  union.members.find? (·.tag? union.discriminator = some tag)

/-! ## Records from fields -/

/-- A check of some data against any type. -/
abbrev Check := FieldType → Checked Datum

/-- What a field is in the record that is made from the given members. -/
def Field.outcome (field : Field) (members : List (String × Check)) : Checked (String × Datum) :=
  Except.map (field.name, ·) <| Checked.under (.field field.name) <|
    match Json.member? field.name members with
    | some check => check field.type
    | none =>
      match field.default? with
      | some value => .ok value
      | none => .defect .missing

/-- Finds fault with every name that is not among the given ones. -/
def refuseOthers {α : Type} (names : List String) (members : List (String × α)) : Checked Unit :=
  match members.filter fun (name, _) => name ∉ names with
  | [] => .ok ()
  | others => .error (others.map fun (name, _) => ⟨.extraForbidden, [.field name]⟩)

/-- The record of a class that is made from the given members. All defects are collected: those of
the declared fields, in the order of their declaration, and then every name that is no field. -/
def Class.outcome (cls : Class) (members : List (String × Check)) : Checked Datum :=
  Except.map (fun (fields, _) => .record cls.name fields) <|
    Checked.both (Checked.all (cls.fields.map (·.outcome members)))
      (refuseOthers (cls.fields.map Field.name) members)

/-! ## The nodes -/

/-- The kinds of node. -/
inductive NodeKind where
  /-- Escaped text. -/
  | text
  /-- Raw text. -/
  | raw
  /-- A comment. -/
  | comment
  /-- An element. -/
  | element
deriving DecidableEq

namespace NodeKind

/-- The `kind` of a record of a node. -/
def name : NodeKind → String
  | .text => "text"
  | .raw => "raw"
  | .comment => "comment"
  | .element => "element"

/-- The name of the class of the nodes of a kind. -/
def className : NodeKind → String
  | .text => "TextNode"
  | .raw => "RawTextNode"
  | .comment => "CommentNode"
  | .element => "ElementNode"

/-- The kind of the nodes of a class. -/
def ofClassName? (className : String) : Option NodeKind :=
  [text, raw, comment, element].find? (·.className = className)

@[simp] theorem ofClassName?_className (kind : NodeKind) :
    ofClassName? kind.className = some kind := by
  cases kind <;> decide

end NodeKind

/-- The fields behind the kind: a tag, attributes and children, or a text. -/
def NodeKind.contents : NodeKind → List Field
  | .element =>
    [⟨"tag", .string 1, none⟩,
      ⟨"attributes", .list (.pair (.string 0) (.string 0)), some (.list [])⟩,
      ⟨"children", .list .union, some (.list [])⟩]
  | _ => [⟨"text", .string 0, none⟩]

/-- The class of the nodes of a kind. The kind itself is the first field, and may be left out. -/
def NodeKind.declaration (kind : NodeKind) : Class :=
  ⟨kind.className, ⟨"kind", .literal kind.name, some (.text kind.name)⟩ :: kind.contents⟩

/-- The union of the nodes, told apart by their kind. -/
def nodes : Union :=
  ⟨"kind", [NodeKind.declaration .text, NodeKind.declaration .raw, NodeKind.declaration .comment,
    NodeKind.declaration .element]⟩

/-- The class that the classes of nodes derive from. -/
def nodeBase : Class := ⟨"NodeBase", [⟨"kind", .string 0, none⟩]⟩

/-! ## Nodes as records -/

/-- An attribute in a record. -/
def attributeDatum : String × String → Datum
  | (name, value) => .tuple [.text name, .text value]

/-- The record of a node that holds a text. -/
def textRecord (kind : NodeKind) (content : String) : Datum :=
  .record kind.className [("kind", .text kind.name), ("text", .text content)]

/-- The record of an element from the records of its children. -/
def elementRecord (tag : String) (attributes : List (String × String)) (children : List Datum) :
    Datum :=
  .record NodeKind.element.className
    [("kind", .text NodeKind.element.name), ("tag", .text tag),
      ("attributes", .list (attributes.map attributeDatum)), ("children", .list children)]

mutual

/-- The record of a node. -/
def Datum.ofNode : Node → Datum
  | .text content => textRecord .text content
  | .raw content => textRecord .raw content
  | .comment content => textRecord .comment content
  | .element tag attributes children => elementRecord tag attributes (Datum.ofNodes children)

/-- The records of nodes. -/
def Datum.ofNodes : List Node → List Datum
  | [] => []
  | n :: ns => Datum.ofNode n :: Datum.ofNodes ns

end

@[simp] theorem Datum.ofNodes_eq_map (ns : List Node) : Datum.ofNodes ns = ns.map Datum.ofNode := by
  induction ns with
  | nil => rfl
  | cons n ns ih => simp [Datum.ofNodes, ih]

/-- The attributes in a field of a record. -/
def Datum.toAttribute? : Datum → Option (String × String)
  | .tuple [.text name, .text value] => some (name, value)
  | _ => none

mutual

/-- The node of a record. -/
def Datum.toNode? : Datum → Option Node
  | .record className [_, (_, .text content)] =>
    match NodeKind.ofClassName? className with
    | some .text => some (.text content)
    | some .raw => some (.raw content)
    | some .comment => some (.comment content)
    | _ => none
  | .record _ [_, (_, .text tag), (_, .list attributes), (_, .list children)] => do
    let attributes ← attributes.mapM Datum.toAttribute?
    let children ← Datum.toNodes? children
    return .element tag attributes children
  | _ => none

/-- The nodes of records. -/
def Datum.toNodes? : List Datum → Option (List Node)
  | [] => some []
  | d :: ds => do
    let n ← d.toNode?
    let ns ← Datum.toNodes? ds
    return n :: ns

end

end MarkupTree.Schema

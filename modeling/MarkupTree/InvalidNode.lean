import MarkupTree.Value.Display

/-!
# Invalid nodes

What is reported about a value that is no well-formed tree: a reason, the offending value, and the
path of slot indices that leads from the whole value to it. The message of a report begins with the
path.
-/

namespace MarkupTree

/-! ## Paths -/

/-- The slot indices that lead from a value to one inside it; its own path is empty. -/
abbrev Path := List Int

namespace Path

/-- The indices of a path, each in brackets. -/
def indices : Path → String
  | [] => ""
  | i :: path => "[" ++ toString i ++ "]" ++ indices path

/-- A path as it is shown in messages. -/
def text (path : Path) : String := "root" ++ indices path

@[simp] theorem indices_append (p q : Path) : indices (p ++ q) = indices p ++ indices q := by
  induction p with
  | nil => simp [indices]
  | cons i p ih => simp [indices, ih, String.append_assoc]

end Path

/-! ## Reasons -/

/-- What is wrong with a value. -/
inductive Reason where
  /-- Neither a text nor a sequence. -/
  | notNode
  /-- A sequence of fewer than two slots. -/
  | tooShort
  /-- Raw text without a text in its second slot. -/
  | rawPayload
  /-- A comment without a text in its third slot. -/
  | commentPayload
  /-- An element whose head is no symbol, or a marker where an element is wanted. -/
  | tagNotSymbol
  /-- An attribute slot of the wrong type. -/
  | attributeSlot
  /-- An attribute that is not a sequence of two items. -/
  | attributeEntry
  /-- An attribute name that is no symbol. -/
  | attributeName
  /-- The value of the named attribute is not a text. -/
  | attributeValue (name : Symbol)
  /-- Not an element, where an accessor wants one. -/
  | notElement
  /-- Neither a text nor a sequence with a head, in the SXML notation. -/
  | notTagged
  /-- An attribute of the SXML notation that has not one or two items. -/
  | sxmlAttribute
  /-- Any other reason, in the words of whoever reports it. -/
  | other (text : String)
deriving DecidableEq, Inhabited

/-- The wording of a reason. -/
def Reason.text : Reason → String
  | .notNode => "expected a string or a list"
  | .tooShort => "node must have at least a tag and an attribute slot"
  | .rawPayload => "raw-string payload must be a string"
  | .commentPayload => "comment payload must be a string in the third slot"
  | .tagNotSymbol => "element tag must be a symbol"
  | .attributeSlot => "attributes must be None, a mapping or a list of pairs"
  | .attributeEntry => "attribute entry must be a (name, value) pair"
  | .attributeName => "attribute name must be a symbol"
  | .attributeValue name => "value of attribute '" ++ name.name ++ "' must be a string"
  | .notElement => "expected an element list"
  | .notTagged => "expected a string or a tagged list"
  | .sxmlAttribute => "SXML attribute must be [name] or [name, value]"
  | .other text => text

/-! ## Reports -/

/-- A reason and the value it is about. -/
structure Fault where
  /-- What is wrong. -/
  reason : Reason
  /-- The offending value. -/
  node : Value
deriving Inhabited

/-- A fault and the place where it was found. -/
structure InvalidNode extends Fault where
  /-- The path from the whole value to the place of the fault. -/
  path : Path
deriving Inhabited

/-- Reports a fault at a place. -/
def Fault.atPath (fault : Fault) (path : Path) : InvalidNode := { fault with path }

namespace InvalidNode

/-- The same report, seen from a value that holds the reported one in its slot `i`. -/
def under (e : InvalidNode) (i : Int) : InvalidNode := { e with path := i :: e.path }

/-- The message of a report: where, why, and about what. -/
def message (e : InvalidNode) : String :=
  "Invalid esxml node at " ++ e.path.text ++ ": " ++ e.reason.text ++ ": " ++ e.node.display

@[simp] theorem path_under (e : InvalidNode) (i : Int) : (e.under i).path = i :: e.path := rfl

@[simp] theorem toFault_under (e : InvalidNode) (i : Int) : (e.under i).toFault = e.toFault := rfl

end InvalidNode

@[simp] theorem Fault.path_atPath (fault : Fault) (path : Path) :
    (fault.atPath path).path = path := rfl

@[simp] theorem Fault.toFault_atPath (fault : Fault) (path : Path) :
    (fault.atPath path).toFault = fault := rfl

end MarkupTree

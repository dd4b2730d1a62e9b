import MarkupTree.InvalidNode
import MarkupTree.Markup

/-!
# Reading nodes from values

A value is read as a tree in one pass that either yields a node or reports the first thing that is
wrong. A text is a text node. A sequence of two slots or more is raw text, a comment or an element,
as its head says; the attributes of an element stand in its second slot, its children from the third
slot on.
-/

namespace MarkupTree

namespace Value

/-! ## Attributes -/

/-- An entry of an attribute list as a name and a value of any type. -/
def readPair : Value → Except Fault (Value × Value)
  | .sequence _ [name, value] => .ok (name, value)
  | entry => .error ⟨.attributeEntry, entry⟩

/-- The entries of an attribute slot: none, those of a mapping, or those of a sequence of pairs. All
entries have to be pairs before any of them is looked into. -/
def attributePairs : Value → Except Fault (List (Value × Value))
  | .null => .ok []
  | .mapping entries => .ok entries
  | .sequence _ entries => entries.mapM readPair
  | slot => .error ⟨.attributeSlot, slot⟩

/-- An attribute is a symbol and a text; the name is looked at first. -/
def readAttribute : Value × Value → Except Fault (Symbol × String)
  | (.symbol name, .text value) => .ok (name, value)
  | (.symbol name, value) => .error ⟨.attributeValue name, value⟩
  | (name, _) => .error ⟨.attributeName, name⟩

/-- The attributes in a slot, in order; names may occur more than once. -/
def readAttributes (slot : Value) : Except Fault (List (Symbol × String)) := do
  let pairs ← attributePairs slot
  pairs.mapM readAttribute

/-- Attributes as they stand in a node, by name. -/
def attributesByName (attributes : List (Symbol × String)) : List (String × String) :=
  attributes.map fun (name, value) => (name.name, value)

/-! ## Nodes -/

/-- The payload of raw text is the second slot. -/
def rawPayload? : (second : Value) → Option String
  | .text content => some content
  | _ => none

/-- The payload of a comment is the third slot; the second one is a placeholder. -/
def commentPayload? : (rest : List Value) → Option String
  | .text content :: _ => some content
  | _ => none

mutual

/-- Reads a value as a node. -/
def read : Value → Except InvalidNode Node
  | .text content => .ok (.text content)
  | .sequence kind (head :: second :: rest) =>
    let rejected (reason : Reason) : InvalidNode :=
      Fault.atPath ⟨reason, .sequence kind (head :: second :: rest)⟩ []
    match head.asHead with
    | .raw =>
      match rawPayload? second with
      | some content => .ok (.raw content)
      | none => .error (rejected .rawPayload)
    | .comment =>
      match commentPayload? rest with
      | some content => .ok (.comment content)
      | none => .error (rejected .commentPayload)
    | .tag tag => do
      let attributes ← (readAttributes second).mapError (·.atPath [1])
      let children ← readChildren 2 rest
      return .element tag.name (attributesByName attributes) children
    | .other => .error (rejected .tagNotSymbol)
  | .sequence kind items => .error (Fault.atPath ⟨.tooShort, .sequence kind items⟩ [])
  | v => .error (Fault.atPath ⟨.notNode, v⟩ [])

/-- Reads the values in the slots from `i` on as nodes, from left to right. -/
def readChildren (i : Nat) : List Value → Except InvalidNode (List Node)
  | [] => .ok []
  | v :: vs => do
    let child ← v.read.mapError (·.under i)
    let children ← readChildren (i + 1) vs
    return child :: children

end

/-! ### One equation for each form -/

@[simp] theorem read_text (content : String) : (Value.text content).read = .ok (.text content) := by
  rw [read]

@[simp] theorem readChildren_nil (i : Nat) : readChildren i [] = .ok [] := by
  rw [readChildren]

/-- Children are read one after the other. -/
theorem readChildren_cons (i : Nat) (v : Value) (vs : List Value) :
    readChildren i (v :: vs) = do
      let child ← v.read.mapError (·.under i)
      let children ← readChildren (i + 1) vs
      return child :: children := by
  rw [readChildren]

/-- What follows the payload of raw text does not count. -/
theorem read_raw (kind : SequenceKind) (content : String) (rest : List Value) :
    (Value.sequence kind (.symbol .rawString :: .text content :: rest)).read =
      .ok (.raw content) := by
  rw [read, asHead_rawString]
  rfl

/-- Neither the placeholder of a comment nor what follows its payload counts. -/
theorem read_comment (kind : SequenceKind) (placeholder : Value) (content : String)
    (rest : List Value) :
    (Value.sequence kind (.symbol .comment :: placeholder :: .text content :: rest)).read =
      .ok (.comment content) := by
  rw [read, asHead_comment]
  rfl

/-- The attributes of an element are read before its children. -/
theorem read_element (kind : SequenceKind) {head : Value} {tag : Symbol}
    (h : head.asHead = .tag tag) (second : Value) (rest : List Value) :
    (Value.sequence kind (head :: second :: rest)).read = do
      let attributes ← (readAttributes second).mapError (·.atPath [1])
      let children ← readChildren 2 rest
      return .element tag.name (attributesByName attributes) children := by
  rw [read, h]

/-- A sequence without a head, or with nothing else, is too short. -/
theorem read_of_length_lt_two (kind : SequenceKind) {items : List Value} (h : items.length < 2) :
    (Value.sequence kind items).read =
      .error (Fault.atPath ⟨.tooShort, .sequence kind items⟩ []) := by
  match items, h with
  | [], _ => rw [read]; simp
  | [_], _ => rw [read]; simp
  | _ :: _ :: _, h => exact absurd h (by simp)

/-! ## Markup -/

/-- A value as markup. The whole value is read before anything is written. -/
def toMarkup (v : Value) : Except InvalidNode String :=
  v.read.map Node.markup

@[simp] theorem toMarkup_text (content : String) :
    (Value.text content).toMarkup = .ok (Markup.escape content) := by
  simp [toMarkup, Except.map, Node.markup]

/-- The wording of the refusal to write a value that is no node. -/
def cannotSerialize (v : Value) : String := "Cannot serialize " ++ v.typeName

/-- A node that has been read before as markup; any other value is refused. -/
def serialize : Value → Except String String
  | .node n => .ok n.markup
  | v => .error v.cannotSerialize

end Value

end MarkupTree

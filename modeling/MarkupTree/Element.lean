import MarkupTree.Reading

/-!
# Elements

An element value taken apart into its tag, its attributes and its children, without reading the
whole tree: the children may be anything. What is no element is reported with the empty path, a
fault in the attributes with the path of the attribute slot.
-/

namespace MarkupTree

/-- The parts of an element value. -/
structure Element where
  /-- The head, which is no marker. -/
  tag : Symbol
  /-- The second slot, where the attributes are. -/
  attributeSlot : Value
  /-- The slots after it. -/
  children : List Value

namespace Element

/-- Takes a value apart. Only a sequence of two slots or more can be an element. -/
def ofValue : Value → Except InvalidNode Element
  | .sequence kind (head :: second :: rest) =>
    match head.asHead with
    | .tag tag => .ok ⟨tag, second, rest⟩
    | _ => .error (Fault.atPath ⟨.tagNotSymbol, .sequence kind (head :: second :: rest)⟩ [])
  | v => .error (Fault.atPath ⟨.notElement, v⟩ [])

/-- Exactly the sequences with a tag at their head are elements. -/
theorem ofValue_eq_ok_iff {v : Value} {e : Element} :
    ofValue v = .ok e ↔
      ∃ kind head, v = .sequence kind (head :: e.attributeSlot :: e.children) ∧
        head.asHead = .tag e.tag := by
  constructor
  · intro h
    unfold ofValue at h
    split at h
    · next kind head second rest =>
      split at h
      · next tag htag => cases h; exact ⟨kind, head, rfl, htag⟩
      · cases h
    · cases h
  · rintro ⟨kind, head, rfl, h⟩
    simp [ofValue, h]

/-- The attributes of an element in order. -/
def attributes (e : Element) : Except InvalidNode (List (Symbol × String)) :=
  e.attributeSlot.readAttributes.mapError (·.atPath [1])

/-- The value of the first attribute of a given name. -/
def findAttribute (name : Symbol) (attributes : List (Symbol × String)) : Option String :=
  (attributes.find? fun (other, _) => other = name).map Prod.snd

end Element

namespace Value

/-- The tag of an element. -/
def nodeTag (v : Value) : Except InvalidNode Symbol :=
  (Element.ofValue v).map Element.tag

/-- The attributes of an element in order. -/
def nodeAttributes (v : Value) : Except InvalidNode (List (Symbol × String)) := do
  let element ← Element.ofValue v
  element.attributes

/-- The value of the first attribute of a given name, if the element has one. -/
def nodeAttribute (name : Symbol) (v : Value) : Except InvalidNode (Option String) := do
  let attributes ← v.nodeAttributes
  return Element.findAttribute name attributes

/-- The children of an element as they stand. -/
def nodeChildren (v : Value) : Except InvalidNode (List Value) :=
  (Element.ofValue v).map Element.children

/-- An attribute list as a value: the list of its pairs. -/
def ofAttributes (attributes : List (Symbol × String)) : Value :=
  .list (attributes.map fun (name, value) => .tuple [.symbol name, .text value])

end Value

/-- The name by which an attribute is looked up: a symbol, or the text of its name. -/
def Symbol.ofLookup : Value → Except NameError Symbol
  | .symbol s => .ok s
  | v => Symbol.ofValue v

/-- Why no attribute can be looked up. -/
inductive LookupError where
  /-- The key names no symbol. -/
  | key (cause : NameError)
  /-- The value is no element, or its attributes are rejected. -/
  | element (report : InvalidNode)

/-- The value of the first attribute that a key names, if there is one. The key is looked at before
the element. -/
def Value.lookupAttribute (v key : Value) : Except LookupError (Option String) := do
  let name ← (Symbol.ofLookup key).mapError .key
  (v.nodeAttribute name).mapError .element

end MarkupTree

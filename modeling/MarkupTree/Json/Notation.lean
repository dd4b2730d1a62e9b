import MarkupTree.Sxml

/-!
# Trees in JSON

JSON has no symbols. In a document that spells a tree the text at the head of an array is read as a
symbol, and so are the names of an object in the attribute slot. What does not have the expected
shape is left as it stands, so that reading the tree reports it.
-/

namespace MarkupTree

namespace Value

/-- A name in an attribute mapping as a symbol. An empty name stays what it is. -/
def symbolizeName (name : Value) : Except NameError Value :=
  if name.isFalsy then .ok name else (Symbol.ofValue name).map .symbol

/-- The attribute slot of an element: the names of a mapping become symbols. -/
def symbolizeAttributes : Value → Except NameError Value
  | .mapping entries => do
    let entries ← entries.mapM fun (name, value) => do
      let name ← symbolizeName name
      return (name, value)
    return .mapping entries
  | slot => .ok slot

mutual

/-- A tree of the standard notation. What follows a marker is left alone. -/
def symbolize : Value → Except NameError Value
  | .sequence .list (.text head :: rest) =>
    if h : head = "" then .ok (.list (.text head :: rest))
    else
      let tag : Symbol := ⟨head, h⟩
      if tag.IsMarker then .ok (.list (.symbol tag :: rest))
      else
        match rest with
        | [] => .ok (.list [.symbol tag])
        | slot :: children => do
          let slot ← symbolizeAttributes slot
          let children ← symbolizeAll children
          return .list (.symbol tag :: slot :: children)
  | v => .ok v

/-- The children of an element of the standard notation. -/
def symbolizeAll : List Value → Except NameError (List Value)
  | [] => .ok []
  | v :: vs => do
    let first ← v.symbolize
    let others ← symbolizeAll vs
    return first :: others

end

mutual

/-- A tree of the SXML notation: the head of every list becomes a symbol. -/
def symbolizeSxml : Value → Value
  | .sequence .list (.text head :: rest) =>
    if h : head = "" then .list (.text head :: rest)
    else .list (.symbol ⟨head, h⟩ :: symbolizeSxmlAll rest)
  | v => v

/-- The items of a list of the SXML notation. -/
def symbolizeSxmlAll : List Value → List Value
  | [] => []
  | v :: vs => v.symbolizeSxml :: symbolizeSxmlAll vs

end

@[simp] theorem symbolizeSxmlAll_eq_map (vs : List Value) :
    symbolizeSxmlAll vs = vs.map symbolizeSxml := by
  induction vs with
  | nil => rfl
  | cons v vs ih => simp [symbolizeSxmlAll, ih]

end Value

end MarkupTree

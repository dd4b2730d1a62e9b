import MarkupTree.Reading
import MarkupTree.Traced

/-!
# The SXML notation

In SXML the attributes of an element stand in an optional list with the head `@` right after the
tag, and an attribute without a value takes its own name as value. The conversion to the standard
notation puts the attributes, or their absence, into the second slot. Attributes without a value are
noted.
-/

namespace MarkupTree.Sxml

/-- The entries of a value that is an attribute list: what follows the head `@`. -/
def attributeEntries? : Value → Option (List Value)
  | .sequence _ (.symbol head :: entries) => if head = .attributeList then some entries else none
  | _ => none

/-- An attribute list is a sequence with its symbol at the head. -/
theorem attributeEntries?_eq_some_iff {v : Value} {entries : List Value} :
    attributeEntries? v = some entries ↔
      ∃ kind, v = .sequence kind (.symbol .attributeList :: entries) := by
  constructor
  · intro h
    unfold attributeEntries? at h
    split at h
    · next kind head rest =>
      split at h
      · next hhead => cases h; exact ⟨kind, by rw [hhead]⟩
      · cases h
    · cases h
  · rintro ⟨kind, rfl⟩
    simp [attributeEntries?]

/-- An attribute that takes its name as its value. -/
def convertUnvalued (name : Value) : Traced Value := do
  Traced.note name
  return .tuple [name, .text name.asText]

/-- An entry of an attribute list as a pair; a missing or absent value is that of the name. -/
def convertAttribute : Value → Traced Value
  | .sequence _ [name] => convertUnvalued name
  | .sequence _ [name, .null] => convertUnvalued name
  | .sequence _ [name, value] => return .tuple [name, value]
  | entry => .failed (Fault.atPath ⟨.sxmlAttribute, entry⟩ [])

/-- The entries of an attribute list as pairs, from left to right. -/
def convertAttributes : List Value → Traced (List Value)
  | [] => return []
  | entry :: entries => do
    let first ← convertAttribute entry
    let others ← convertAttributes entries
    return first :: others

mutual

/-- Converts a value to the standard notation. -/
def convert : Value → Traced Value
  | .text content => return .text content
  | .sequence _ (tag :: second :: rest) =>
    match attributeEntries? second with
    | some entries => do
      let attributes ← (convertAttributes entries).mapError (·.under 1)
      let body ← convertBody 2 rest
      return .list (tag :: .list attributes :: body)
    | none => do
      let body ← convertBody 1 (second :: rest)
      return .list (tag :: .null :: body)
  | .sequence _ [tag] => return .list [tag, .null]
  | v => .failed (Fault.atPath ⟨.notTagged, v⟩ [])

/-- Converts the values in the slots from `i` on, from left to right. -/
def convertBody (i : Nat) : List Value → Traced (List Value)
  | [] => return []
  | v :: vs => do
    let first ← (convert v).mapError (·.under i)
    let others ← convertBody (i + 1) vs
    return first :: others

end

/-! ### One equation for each form -/

@[simp] theorem convert_text (content : String) :
    convert (.text content) = pure (.text content) := by
  rw [convert]

@[simp] theorem convertBody_nil (i : Nat) : convertBody i [] = pure [] := by
  rw [convertBody]

/-- The items of a body are converted one after the other. -/
theorem convertBody_cons (i : Nat) (v : Value) (vs : List Value) :
    convertBody i (v :: vs) = do
      let first ← (convert v).mapError (·.under i)
      let others ← convertBody (i + 1) vs
      return first :: others := by
  rw [convertBody]

/-- With an attribute list the body begins in slot 2. -/
theorem convert_of_attributeEntries? (kind : SequenceKind) (tag : Value) {second : Value}
    {entries : List Value} (h : attributeEntries? second = some entries) (rest : List Value) :
    convert (.sequence kind (tag :: second :: rest)) = do
      let attributes ← (convertAttributes entries).mapError (·.under 1)
      let body ← convertBody 2 rest
      return .list (tag :: .list attributes :: body) := by
  rw [convert, h]

/-- Without one the body begins in slot 1. -/
theorem convert_of_attributeEntries?_eq_none (kind : SequenceKind) (tag : Value) {second : Value}
    (h : attributeEntries? second = none) (rest : List Value) :
    convert (.sequence kind (tag :: second :: rest)) = do
      let body ← convertBody 1 (second :: rest)
      return .list (tag :: .null :: body) := by
  rw [convert, h]

/-! ## Markup -/

/-- A value of the SXML notation in the standard notation. -/
def toStandard (v : Value) : Except InvalidNode Value := (convert v).result

/-- A value of the SXML notation as markup. -/
def toMarkup (v : Value) : Except InvalidNode String := do
  let converted ← toStandard v
  converted.toMarkup

end MarkupTree.Sxml

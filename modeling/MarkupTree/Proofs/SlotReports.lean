import MarkupTree.Element
import MarkupTree.Proofs.Grammar

/-!
# Attribute slots by themselves

Elements are read, and taken apart, with the attribute slot as a part that is read by itself and
whose faults are reported at the place of the slot. `exists_attributesAt_iff_and_eq_error_iff` says
all there is to know about that part: which slots are accepted, what is read from them, and which of
several faults is reported. The attributes that are read make up a slot themselves, and nothing
changes when that slot is read.
-/

namespace MarkupTree.Value

/-- The attributes in a slot, with a fault reported at the place of the slot. -/
def attributesAt (slot : Value) (path : Path) : Except InvalidNode (List (Symbol × String)) :=
  slot.readAttributes.mapError (·.atPath path)

variable {slot : Value} {path : Path}

theorem attributesAt_eq_ok_iff {attributes : List (Symbol × String)} :
    slot.attributesAt path = .ok attributes ↔ slot.HoldsAttributes attributes := by
  rw [attributesAt, mapError_eq_ok_iff, readAttributes_eq_ok_iff]

theorem attributesAt_eq_error_iff {e : InvalidNode} :
    slot.attributesAt path = .error e ↔ e.path = path ∧ slot.SlotFault e.toFault := by
  rw [attributesAt, mapError_eq_error_iff]
  simp only [readAttributes_eq_error_iff]
  constructor
  · rintro ⟨fault, hfault, rfl⟩
    exact ⟨rfl, hfault⟩
  · rintro ⟨rfl, hfault⟩
    exact ⟨e.toFault, hfault, rfl⟩

/-- A list of pairs holds the attributes that it is made of. -/
theorem holdsAttributes_ofAttributes (attributes : List (Symbol × String)) :
    (ofAttributes attributes).HoldsAttributes attributes := by
  refine .pairs ?_
  rw [List.forall₂_map_left_iff, List.forall₂_same]
  exact fun _ _ => ⟨.tuple, rfl⟩

/-- A slot is accepted exactly when it is absent, a mapping from symbols to texts or a sequence of
pairs of a symbol and a text. Its entries are what is read, in order and one by one, and what is
read is read again as it stands. A fault has the path of the slot. A slot of another type is at
fault itself, then the first item of a sequence that is no pair, and only when all entries are pairs
the first of them that is no attribute: its name if that is no symbol, and otherwise its value. -/
theorem exists_attributesAt_iff_and_eq_error_iff (slot : Value) (path : Path) :
    ((∃ attributes, slot.attributesAt path = .ok attributes) ↔ AttributeSlot slot) ∧
    (∀ attributes, slot.attributesAt path = .ok attributes ↔ slot.HoldsAttributes attributes) ∧
    (∀ attributes path', (ofAttributes attributes).attributesAt path' = .ok attributes) ∧
    ∀ e, slot.attributesAt path = .error e ↔ e.path = path ∧ slot.SlotFault e.toFault := by
  refine ⟨?_, fun _ => attributesAt_eq_ok_iff, fun attributes path' => ?_,
    fun _ => attributesAt_eq_error_iff⟩
  · simp only [attributesAt_eq_ok_iff]
    exact exists_holdsAttributes_iff
  · exact attributesAt_eq_ok_iff.mpr (holdsAttributes_ofAttributes attributes)

/-- The item without a partner is reported and not the number before it. In the mapping the second
name is reported: its value is wrong too, but a name comes before its value. The last slot is
accepted, with the same name twice. -/
theorem attributesAt_of_several_faults :
    let a : Value := .symbol ⟨"a", by decide⟩
    let items : Value := .list [.tuple [a, .int 1], .text "b", .list []]
    let entries : Value := .mapping [(a, .text "1"), (.text "b", .int 2), (a, .int 3)]
    let twice : Value := .tuple [.list [a, .text "1"], .tuple [a, .text "2"]]
    (items.attributesAt [2, 1] = .error (Fault.atPath ⟨.attributeEntry, .text "b"⟩ [2, 1]) ∧
      items.SlotFault ⟨.attributeEntry, .text "b"⟩) ∧
    (entries.attributesAt [1] = .error (Fault.atPath ⟨.attributeName, .text "b"⟩ [1]) ∧
      entries.SlotFault ⟨.attributeName, .text "b"⟩) ∧
    AttributeSlot twice := by
  intro a items entries twice
  have hitems := (exists_attributesAt_iff_and_eq_error_iff items [2, 1]).2.2.2
  have hentries := (exists_attributesAt_iff_and_eq_error_iff entries [1]).2.2.2
  have htwice := (exists_attributesAt_iff_and_eq_error_iff twice []).1
  exact ⟨⟨rfl, ((hitems _).mp rfl).2⟩, ⟨rfl, ((hentries _).mp rfl).2⟩, htwice.mp ⟨_, rfl⟩⟩

end MarkupTree.Value

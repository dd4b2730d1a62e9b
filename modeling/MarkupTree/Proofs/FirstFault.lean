import MarkupTree.Proofs.ReadingSteps
import MarkupTree.Proofs.Slots

/-!
# The first fault of a value

A value that is rejected is reported with one fault, however many there are. The path of the report
leads through elements to a value of the wrong shape or to an attribute slot that is rejected, and
everything that is read before that place is well formed (`LocatesFirstFault`). Reading goes from
slot to slot, so a report about a child turns into one about the whole value by one more index
(`LocatesFirstFault.under`).
-/

namespace MarkupTree.Value

/-- A sequence with a tag at its head and an attribute slot. -/
def IsElement (v : Value) : Prop :=
  ∃ kind tag slot children, ¬ tag.IsMarker ∧ v = .sequence kind (.symbol tag :: slot :: children)

/-- A report leads to the first fault of a value. -/
structure LocatesFirstFault (v : Value) (e : InvalidNode) : Prop where
  /-- Every index of the path is that of a slot of an element. -/
  in_range : ∀ p i q, e.path = p ++ i :: q →
    ∃ w, v.at? p = some w ∧ w.IsElement ∧ (w.slot? i).isSome
  /-- At the end of the path there is a node of the wrong shape, or an attribute slot that is
  rejected with the reported fault. -/
  at_end :
    ((∀ i ∈ e.path, 2 ≤ i) ∧ v.at? e.path = some e.node ∧ ShapeFault e.node e.reason) ∨
    ∃ p slot, e.path = p ++ [1] ∧ (∀ i ∈ p, 2 ≤ i) ∧ v.at? e.path = some slot ∧
      slot.readAttributes = .error e.toFault ∧ slot.AttributePart e.node
  /-- Wherever the path enters a child, the attribute slot and the children before are accepted. -/
  nothing_earlier : ∀ p i q, e.path = p ++ i :: q → 2 ≤ i →
    ∃ w slot, v.at? p = some w ∧ w.slot? 1 = some slot ∧
      (∃ attributes, slot.readAttributes = .ok attributes) ∧
      ∀ j, 2 ≤ j → j < i → ∃ child node, w.slot? j = some child ∧ child.read = .ok node

/-! ## One level -/

/-- A fault in the shape of the whole value is located by the empty path. -/
theorem locatesFirstFault_of_shapeFault {v : Value} {reason : Reason} (h : ShapeFault v reason) :
    LocatesFirstFault v (Fault.atPath ⟨reason, v⟩ []) where
  in_range := fun p i q hpath => by simp at hpath
  at_end := .inl ⟨by simp, rfl, h⟩
  nothing_earlier := fun p i q hpath => by simp at hpath

/-- A fault in the attribute slot is located by the index of that slot. -/
theorem locatesFirstFault_of_attributes (kind : SequenceKind) {tag : Symbol} {slot : Value}
    {fault : Fault} (children : List Value) (htag : ¬ tag.IsMarker)
    (h : slot.readAttributes = .error fault) :
    LocatesFirstFault (.sequence kind (.symbol tag :: slot :: children)) (fault.atPath [1]) where
  in_range := by
    intro p i q hpath
    obtain ⟨rfl, rfl⟩ := eq_of_singleton_eq_append hpath
    exact ⟨_, rfl, ⟨kind, tag, slot, children, htag, rfl⟩, rfl⟩
  at_end := .inr ⟨[], slot, rfl, by simp, rfl, h, part_of_readAttributes_eq_error h⟩
  nothing_earlier := by
    intro p i q hpath hi
    obtain ⟨rfl, rfl⟩ := eq_of_singleton_eq_append hpath
    omega

/-- A report about a child, seen from the element, when everything before the child is accepted. -/
theorem LocatesFirstFault.under {child : Value} {e : InvalidNode} (h : LocatesFirstFault child e)
    (kind : SequenceKind) {tag : Symbol} {slot : Value} {attributes : List (Symbol × String)}
    {before : List Value} (after : List Value) (htag : ¬ tag.IsMarker)
    (hslot : slot.readAttributes = .ok attributes)
    (hbefore : ∀ c ∈ before, ∃ n, c.read = .ok n) :
    LocatesFirstFault (.sequence kind (.symbol tag :: slot :: (before ++ child :: after)))
      (e.under ((2 + before.length : Nat) : Int)) := by
  have hchild : (Value.sequence kind (.symbol tag :: slot :: (before ++ child :: after))).slot?
      ((2 + before.length : Nat) : Int) = some child := by
    rw [slot?_child, List.getElem?_append_right (Nat.le_refl _), Nat.sub_self]
    rfl
  refine ⟨?_, ?_, ?_⟩
  · intro p i q hpath
    -- The first index is that of the child, the others belong to the report about the child.
    cases p with
    | nil =>
      obtain ⟨rfl, -⟩ := List.cons.inj hpath
      exact ⟨_, rfl, ⟨kind, tag, slot, _, htag, rfl⟩, by rw [hchild]; rfl⟩
    | cons k p =>
      obtain ⟨rfl, hpath'⟩ := List.cons.inj hpath
      rw [at?_cons_of_slot? hchild]
      exact h.in_range p i q hpath'
  · rw [InvalidNode.path_under, InvalidNode.toFault_under, at?_cons_of_slot? hchild]
    rcases h.at_end with ⟨hindices, hat, hshape⟩ | ⟨p, slot', hpath, hindices, hat, hread, hpart⟩
    · exact .inl ⟨List.forall_mem_cons.mpr ⟨by omega, hindices⟩, hat, hshape⟩
    · refine .inr ⟨_ :: p, slot', by rw [hpath]; rfl, ?_, hat, hread, hpart⟩
      exact List.forall_mem_cons.mpr ⟨by omega, hindices⟩
  · intro p i q hpath hi
    cases p with
    | nil =>
      obtain ⟨rfl, -⟩ := List.cons.inj hpath
      refine ⟨_, slot, rfl, rfl, ⟨attributes, hslot⟩, fun j hj hji => ?_⟩
      -- A child before the one that is entered is one of those that are accepted.
      obtain ⟨k, rfl⟩ : ∃ k : Nat, j = ((2 + k : Nat) : Int) := ⟨(j - 2).toNat, by omega⟩
      have hk : k < before.length := by omega
      obtain ⟨node, hnode⟩ := hbefore before[k] (List.getElem_mem hk)
      refine ⟨before[k], node, ?_, hnode⟩
      rw [slot?_child, List.getElem?_append_left hk, List.getElem?_eq_getElem hk]
    | cons k p =>
      obtain ⟨rfl, hpath'⟩ := List.cons.inj hpath
      rw [at?_cons_of_slot? hchild]
      exact h.nothing_earlier p i q hpath' hi

/-! ## Whole trees -/

/-- The report about a rejected value leads to its first fault. -/
theorem locatesFirstFault_of_read_eq_error {v : Value} {e : InvalidNode}
    (h : v.read = .error e) : LocatesFirstFault v e := by
  induction v using slotInduction generalizing e with
  | sequence kind items ih =>
    -- The step is what reading does at one level; only a fault of a child needs the hypothesis.
    cases read_eq_error_iff.mp h with
    | shape hshape => exact locatesFirstFault_of_shapeFault hshape
    | attributes _ children htag hslot =>
      exact locatesFirstFault_of_attributes kind children htag hslot
    | child _ after htag hslot hbefore hchild =>
      have hlocates := ih _ (by simp) hchild
      exact hlocates.under kind after htag (readAttributes_eq_ok_iff.mpr hslot) hbefore
  | atom v hv =>
    -- A value without slots can only have the wrong shape.
    cases read_eq_error_iff.mp h with
    | shape hshape => exact locatesFirstFault_of_shapeFault hshape
    | _ => cases hv

/-- Of the three faults of a list, the attribute of its second child is reported: the number after
it is a child of the same child, and the last number comes later still. -/
theorem locatesFirstFault_of_three_faults :
    let child : Value := .tuple [.symbol ⟨"li", by decide⟩,
      .list [.tuple [.symbol ⟨"id", by decide⟩, .int 1]], .int 2]
    let v : Value := .list [.symbol ⟨"ul", by decide⟩, .null, .text "first", child, .int 3]
    let e : InvalidNode := Fault.atPath ⟨.attributeValue ⟨"id", by decide⟩, .int 1⟩ [3, 1]
    v.read = .error e ∧ LocatesFirstFault v e :=
  ⟨rfl, locatesFirstFault_of_read_eq_error rfl⟩

end MarkupTree.Value

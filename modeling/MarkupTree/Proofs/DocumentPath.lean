import MarkupTree.Proofs.JsonTree
import MarkupTree.Proofs.ReadingSteps

/-!
# Where the reports about documents point

A document is turned into a value before it is read, but whoever gets the report has only the
document at hand. The path of a report can be followed in the document all the same, slot by slot,
because the conversion keeps every slot of an array in its place. `PointsIntoDocument` says what
stands at its end: the document that the reported value was made from, or an attribute slot that
holds the reported value as it stands. A report about a child turns into one about the whole
document by one more index (`PointsIntoDocument.under`).
-/

namespace MarkupTree.Json

/-! ## Slots of a document -/

/-- The document in one slot of an array. -/
def slot? (d : Json) : Int → Option Json
  | .ofNat i => d.items?.bind fun items => items[i]?
  | .negSucc _ => none

/-- The document that a path leads to. -/
def at? (d : Json) : Path → Option Json
  | [] => some d
  | i :: path => (d.slot? i).bind fun child => child.at? path

/-- An array with a name at its head that is no marker. -/
def IsElement (d : Json) : Prop :=
  ∃ head rest, head ≠ "" ∧ head ≠ "raw-string" ∧ head ≠ "comment" ∧ d = .array (.text head :: rest)

theorem isElement_of_not_isMarker {tag : Symbol} (h : ¬ tag.IsMarker) (rest : List Json) :
    (Json.array (.text tag.name :: rest)).IsElement := by
  obtain ⟨hraw, hcomment⟩ := not_or.mp (mt Symbol.isMarker_iff_name.mpr h)
  exact ⟨tag.name, rest, tag.name_ne_empty, hraw, hcomment, rfl⟩

theorem at?_cons_of_slot? {d child : Json} {i : Int} (h : d.slot? i = some child) (path : Path) :
    d.at? (i :: path) = child.at? path := by
  rw [at?, h, Option.bind_some]

/-- The slots from 2 on hold what follows the first two items. -/
theorem slot?_child (head slot : Json) (children : List Json) (i : Nat) :
    (Json.array (head :: slot :: children)).slot? ((2 + i : Nat) : Int) = children[i]? := by
  rw [Nat.add_comm]
  rfl

/-! ## What a value was made from -/

/-- Only an array is converted to a sequence, item by item. -/
theorem toValue_eq_sequence_iff {d : Json} {kind : SequenceKind} {values : List Value} :
    d.toValue = .sequence kind values ↔
      ∃ items, d = .array items ∧ kind = .list ∧ values = items.map toValue := by
  cases d <;> simp [toValue, eq_comm]

/-- An element of the tree comes from an array with the tag as its head, and its children come from
the items in the same slots. -/
theorem exists_eq_array_of_tree_eq {d : Json} {kind : SequenceKind} {tag : Symbol} {slot : Value}
    {children : List Value} (htag : ¬ tag.IsMarker)
    (h : d.tree = .sequence kind (.symbol tag :: slot :: children)) :
    ∃ slot' children', d = .array (.text tag.name :: slot' :: children') ∧
      slot = slot'.slotTree ∧ children = children'.map tree := by
  rcases headless_or_exists_eq_array d with hd | ⟨s, rest, rfl⟩
  · rw [hd.tree_eq_toValue] at h
    obtain ⟨items, -, -, hitems⟩ := toValue_eq_sequence_iff.mp h
    exact absurd hitems.symm (map_toValue_ne_symbol_cons items tag _)
  by_cases hs : s.IsMarker
  · rw [tree_marker hs] at h
    simp only [Value.sequence.injEq, List.cons.injEq, Value.symbol.injEq] at h
    obtain ⟨-, rfl, -⟩ := h
    exact absurd hs htag
  cases rest with
  | nil => simp [tree_singleton hs] at h
  | cons slot' children' =>
    rw [tree_element hs] at h
    simp only [Value.sequence.injEq, List.cons.injEq, Value.symbol.injEq] at h
    obtain ⟨-, rfl, rfl, rfl⟩ := h
    exact ⟨slot', children', rfl, rfl, rfl⟩

/-! ## Attribute slots -/

/-- The parts of an attribute slot that a report can be about, as they stand in the document. -/
inductive SlotPart (slot : Json) : Value → Prop
  /-- The slot itself. -/
  | slot : SlotPart slot slot.toValue
  /-- An item of a slot that is an array. -/
  | item {items item} (hslot : slot = .array items) (h : item ∈ items) : SlotPart slot item.toValue
  /-- The first item of an item that has two. -/
  | name {items name value} (hslot : slot = .array items) (h : .array [name, value] ∈ items) :
      SlotPart slot name.toValue
  /-- The empty name of a member. -/
  | emptyName {members value} (hslot : slot = .object members) (h : ("", value) ∈ members) :
      SlotPart slot (.text "")
  /-- The value of a member. -/
  | value {members name value} (hslot : slot = .object members) (h : (name, value) ∈ members) :
      SlotPart slot value.toValue

/-- The names of an object are symbols but for the empty one, so of a member either an empty name or
the value is reported. -/
theorem slotPart_of_object {members : List (String × Json)} {fault : Fault}
    (h : (Json.object members).slotTree.readAttributes = .error fault) :
    (Json.object members).SlotPart fault.node := by
  cases Value.readAttributes_eq_error_iff.mp h with
  | slot _ hmapping => exact absurd rfl (hmapping _)
  | entry hitems => cases hitems
  | @pair before pair after _ hpairs _ hpair =>
    have hentries := Value.listsPairs_mapping_iff.mp hpairs
    obtain ⟨⟨name, value⟩, hmember, rfl⟩ : ∃ member ∈ members, _ = pair :=
      List.mem_map.mp (by rw [hentries]; simp)
    cases hpair with
    | name hname =>
      -- Only the empty name is no symbol.
      by_cases hempty : name = ""
      · subst hempty
        exact .emptyName rfl hmember
      · have hsymbol : nameTree name = .symbol ⟨name, hempty⟩ := nameTree_eq_symbol_iff.mpr rfl
        exact absurd hsymbol (hname _)
    | value => exact .value rfl hmember

/-- No name in an array is a symbol, so of an item that has two either the item or the name is
reported, and never the value. -/
theorem slotPart_of_array {items : List Json} {fault : Fault}
    (h : (Json.array items).slotTree.readAttributes = .error fault) :
    (Json.array items).SlotPart fault.node := by
  rw [show (Json.array items).slotTree = .list (items.map toValue) by simp [slotTree, toValue]] at h
  cases Value.readAttributes_eq_error_iff.mp h with
  | slot _ _ hitems => cases hitems
  | @entry before entry after hitems =>
    rw [Value.items?_sequence, Option.some.injEq] at hitems
    obtain ⟨item, hitem, rfl⟩ : ∃ item ∈ items, _ = entry :=
      List.mem_map.mp (by rw [hitems]; simp)
    exact .item rfl hitem
  | @pair before pair after _ hpairs _ hpair =>
    obtain ⟨entry, hentry, kind, hkind⟩ :=
      exists_mem_of_forall₂_right (Value.listsPairs_sequence_iff.mp hpairs) (b := pair) (by simp)
    obtain ⟨item, hitem, rfl⟩ := List.mem_map.mp hentry
    obtain ⟨parts, rfl, -, hparts⟩ := toValue_eq_sequence_iff.mp hkind
    obtain ⟨name, parts, rfl, hname, hparts⟩ := List.map_eq_cons_iff.mp hparts.symm
    obtain ⟨value, parts, rfl, -, hparts⟩ := List.map_eq_cons_iff.mp hparts
    obtain rfl := List.map_eq_nil_iff.mp hparts
    cases hpair with
    | name =>
      rw [← hname]
      exact .name rfl hitem
    | value hs => exact absurd (hname.trans hs) (toValue_ne_symbol name _)

/-- A fault in the attribute slot of an element is about a part of the slot. -/
theorem slotPart_of_readAttributes_eq_error {slot : Json} {fault : Fault}
    (h : slot.slotTree.readAttributes = .error fault) : slot.SlotPart fault.node := by
  cases slot with
  | object members => exact slotPart_of_object h
  | array items => exact slotPart_of_array h
  | null => cases h
  | bool b => cases h; exact .slot
  | int i => cases h; exact .slot
  | float x => cases h; exact .slot
  | text s => cases h; exact .slot

/-! ## One level -/

/-- One level of a document whose tree is rejected. -/
inductive RejectedWith : Json → InvalidNode → Prop
  /-- The whole tree is reported. -/
  | whole (d reason) : RejectedWith d (Fault.atPath ⟨reason, d.tree⟩ [])
  /-- The attribute slot of an element is rejected. -/
  | attributes {tag : Symbol} {slot fault} (children) (htag : ¬ tag.IsMarker)
      (h : slot.slotTree.readAttributes = .error fault) :
      RejectedWith (.array (.text tag.name :: slot :: children)) (fault.atPath [1])
  /-- A child of an element is rejected. -/
  | child {tag : Symbol} {child e} (slot before after) (htag : ¬ tag.IsMarker)
      (h : child.tree.read = .error e) :
      RejectedWith (.array (.text tag.name :: slot :: (before ++ child :: after)))
        (e.under ((2 + before.length : Nat) : Int))

theorem rejectedWith_of_read_tree_eq_error {d : Json} {e : InvalidNode}
    (h : d.tree.read = .error e) : RejectedWith d e := by
  generalize hv : d.tree = v at h
  cases Value.read_eq_error_iff.mp h with
  | @shape _ reason =>
    rw [← hv]
    exact .whole d reason
  | attributes kind _ htag hslot =>
    obtain ⟨slot, children, rfl, rfl, -⟩ := exists_eq_array_of_tree_eq htag hv
    exact .attributes children htag hslot
  | child kind _ htag _ _ hchild =>
    obtain ⟨slot, children, rfl, -, hchildren⟩ := exists_eq_array_of_tree_eq htag hv
    obtain ⟨before, rest, rfl, rfl, hrest⟩ := List.map_eq_append_iff.mp hchildren.symm
    obtain ⟨child, after, rfl, rfl, rfl⟩ := List.map_eq_cons_iff.mp hrest
    rw [List.length_map]
    exact .child slot before after htag hchild

/-! ## Whole documents -/

/-- A report about the tree of a document leads to a place in the document. -/
structure PointsIntoDocument (d : Json) (e : InvalidNode) : Prop where
  /-- Every index of the path is that of a slot of an element. -/
  in_range : ∀ p i q, e.path = p ++ i :: q →
    ∃ w, d.at? p = some w ∧ w.IsElement ∧ (w.slot? i).isSome
  /-- At the end of the path stands what the reported value was made from; but where the path ends
  in the slot of attributes, it is a slot of which a part is reported. -/
  at_end : ∃ part, d.at? e.path = some part ∧
    (e.path.getLast? ≠ some 1 → part.toValue.symbolize = .ok e.node) ∧
    (e.path.getLast? = some 1 → part.SlotPart e.node)

/-- A report about a child, seen from the element. -/
theorem PointsIntoDocument.under {child : Json} {e : InvalidNode} (h : PointsIntoDocument child e)
    {tag : Symbol} (slot : Json) (before after : List Json) (htag : ¬ tag.IsMarker) :
    PointsIntoDocument (.array (.text tag.name :: slot :: (before ++ child :: after)))
      (e.under ((2 + before.length : Nat) : Int)) := by
  have hslot : (Json.array (.text tag.name :: slot :: (before ++ child :: after))).slot?
      ((2 + before.length : Nat) : Int) = some child := by
    rw [slot?_child, List.getElem?_append_right (Nat.le_refl _), Nat.sub_self]
    rfl
  refine ⟨?_, ?_⟩
  · intro p i q hpath
    -- The first index is that of the child, the others belong to the report about the child.
    cases p with
    | nil =>
      obtain ⟨rfl, -⟩ := List.cons.inj hpath
      exact ⟨_, rfl, isElement_of_not_isMarker htag _, by rw [hslot]; rfl⟩
    | cons k p =>
      obtain ⟨rfl, hrest⟩ := List.cons.inj hpath
      rw [at?_cons_of_slot? hslot]
      exact h.in_range p i q hrest
  · obtain ⟨part, hpart, hnode, hslotPart⟩ := h.at_end
    -- The index of a child is never that of the attributes, so both paths end alike.
    have hlast : (e.under ((2 + before.length : Nat) : Int)).path.getLast? = some 1 ↔
        e.path.getLast? = some 1 := by
      rw [InvalidNode.path_under, List.getLast?_cons]
      cases e.path.getLast? with
      | none => simp; omega
      | some i => rfl
    refine ⟨part, ?_, ?_, ?_⟩
    · rw [InvalidNode.path_under, at?_cons_of_slot? hslot, hpart]
    · exact fun h => hnode (mt hlast.mpr h)
    · exact fun h => hslotPart (hlast.mp h)

theorem pointsIntoDocument_of_read_tree_eq_error {d : Json} {e : InvalidNode}
    (h : d.tree.read = .error e) : PointsIntoDocument d e := by
  induction d using itemInduction generalizing e with
  | array items ih =>
    cases rejectedWith_of_read_tree_eq_error h with
    | whole => exact ⟨by simp, _, rfl, fun _ => symbolize_toValue _, by simp⟩
    | @attributes tag slot fault children htag hslot =>
      refine ⟨?_, slot, rfl, fun h => absurd rfl h, fun _ => ?_⟩
      · intro p i q hpath
        obtain ⟨rfl, rfl⟩ := Value.eq_of_singleton_eq_append hpath
        exact ⟨_, rfl, isElement_of_not_isMarker htag _, rfl⟩
      · exact slotPart_of_readAttributes_eq_error hslot
    | child slot before after htag hchild =>
      exact (ih _ (by simp) hchild).under slot before after htag
  | atom d hd =>
    cases rejectedWith_of_read_tree_eq_error h with
    | whole => exact ⟨by simp, _, rfl, fun _ => symbolize_toValue _, by simp⟩
    | attributes => cases hd
    | child => cases hd

/-- The report about a document that spells no tree leads to a place in the document. -/
theorem pointsIntoDocument_of_toMarkup_eq_error {d : Json} {v : Value} {e : InvalidNode}
    (hv : d.toValue.symbolize = .ok v) (he : v.toMarkup = .error e) : PointsIntoDocument d e := by
  rw [symbolize_toValue] at hv
  obtain rfl := Except.ok.inj hv
  exact pointsIntoDocument_of_read_tree_eq_error (map_eq_error_iff.mp he)

/-- The empty name among the attributes of the second child comes before the number that is one of
their values, and before the number that is a child. -/
theorem pointsIntoDocument_of_nested_member :
    let child : Json := .array [.text "li", .object [("", .text "x"), ("id", .int 1)], .int 2]
    let d : Json := .array [.text "ul", .null, .array [.text "br", .array []], child]
    let e : InvalidNode := Fault.atPath ⟨.attributeName, .text ""⟩ [3, 1]
    d.toValue.symbolize = .ok d.tree ∧ d.tree.toMarkup = .error e ∧ PointsIntoDocument d e :=
  ⟨rfl, rfl, pointsIntoDocument_of_toMarkup_eq_error rfl rfl⟩

end MarkupTree.Json

import MarkupTree.Proofs.FirstFault
import MarkupTree.Proofs.SlotReports

/-!
# Taking elements apart

The accessors look at the slots of an element value directly, and reading makes a node of the whole
value. Main results:

* `accessors_agree_with_read`: the parts that the accessors find are those of the node, wherever
  there is one, and they reject the attributes of an element exactly when reading does;
* `read_rebuild_and_accessors_rebuild`: the element that is put together again from its parts cannot
  be told from the first one, whatever its children are.
-/

namespace MarkupTree.Value

/-! ## The accessors on an element -/

section Element

variable (kind : SequenceKind) {tag : Symbol} (htag : ¬ tag.IsMarker) (slot : Value)
  (children : List Value)

include htag

theorem ofValue_element :
    Element.ofValue (.sequence kind (.symbol tag :: slot :: children)) =
      .ok ⟨tag, slot, children⟩ :=
  Element.ofValue_eq_ok_iff.mpr ⟨kind, .symbol tag, rfl, asHead_symbol htag⟩

theorem nodeTag_element :
    (Value.sequence kind (.symbol tag :: slot :: children)).nodeTag = .ok tag := by
  rw [nodeTag, ofValue_element kind htag]
  rfl

theorem nodeAttributes_element :
    (Value.sequence kind (.symbol tag :: slot :: children)).nodeAttributes =
      slot.attributesAt [1] := by
  rw [nodeAttributes, ofValue_element kind htag]
  rfl

theorem nodeChildren_element :
    (Value.sequence kind (.symbol tag :: slot :: children)).nodeChildren = .ok children := by
  rw [nodeChildren, ofValue_element kind htag]
  rfl

end Element

/-- Only elements have a tag. -/
theorem nodeTag_eq_ok_iff {v : Value} {tag : Symbol} :
    v.nodeTag = .ok tag ↔
      ∃ kind slot children, ¬ tag.IsMarker ∧
        v = .sequence kind (.symbol tag :: slot :: children) := by
  constructor
  · intro h
    obtain ⟨⟨_, slot, children⟩, helement, rfl⟩ := map_eq_ok_iff.mp h
    obtain ⟨kind, head, rfl, hhead⟩ := Element.ofValue_eq_ok_iff.mp helement
    obtain ⟨rfl, htag⟩ := asHead_eq_tag_iff.mp hhead
    exact ⟨kind, slot, children, htag, rfl⟩
  · rintro ⟨kind, slot, children, htag, rfl⟩
    exact nodeTag_element kind htag slot children

/-- What has attributes is an element, and its second slot holds them. -/
theorem nodeAttributes_eq_ok_iff {v : Value} {pairs : List (Symbol × String)} :
    v.nodeAttributes = .ok pairs ↔
      ∃ kind tag slot children, ¬ tag.IsMarker ∧
        v = .sequence kind (.symbol tag :: slot :: children) ∧ slot.HoldsAttributes pairs := by
  constructor
  · intro h
    obtain ⟨⟨tag, slot, children⟩, helement, hslot⟩ := bind_eq_ok_iff.mp h
    obtain ⟨kind, head, rfl, hhead⟩ := Element.ofValue_eq_ok_iff.mp helement
    obtain ⟨rfl, htag⟩ := asHead_eq_tag_iff.mp hhead
    exact ⟨kind, tag, slot, children, htag, rfl, attributesAt_eq_ok_iff.mp hslot⟩
  · rintro ⟨kind, tag, slot, children, htag, rfl, hslot⟩
    rw [nodeAttributes_element kind htag]
    exact attributesAt_eq_ok_iff.mpr hslot

/-! ## Looking up an attribute -/

/-- Symbols are told apart by their names, so an attribute is found by its symbol exactly when it is
found by the name. -/
theorem findAttribute_eq_lookup (name : Symbol) (pairs : List (Symbol × String)) :
    Element.findAttribute name pairs = (attributesByName pairs).lookup name.name := by
  induction pairs with
  | nil => rfl
  | cons pair pairs ih =>
    obtain ⟨other, value⟩ := pair
    by_cases h : other = name
    · subst h
      rw [attributesByName, List.map_cons, List.lookup_cons_self, Element.findAttribute,
        List.find?_cons_of_pos (by simp)]
      rfl
    · have hname : (name.name == other.name) = false :=
        beq_false_of_ne fun hname => h (Symbol.ext hname.symm)
      rw [attributesByName, List.map_cons, List.lookup_cons, hname, Element.findAttribute,
        List.find?_cons_of_neg (by simp [h])]
      exact ih

/-- A symbol and the text of its name are the same key. -/
theorem ofLookup_text_name (name : Symbol) :
    Symbol.ofLookup (.text name.name) = Symbol.ofLookup (.symbol name) :=
  Symbol.ofName_name name

theorem lookupAttribute_symbol {v : Value} {pairs : List (Symbol × String)}
    (h : v.nodeAttributes = .ok pairs) (name : Symbol) :
    v.lookupAttribute (.symbol name) = .ok ((attributesByName pairs).lookup name.name) := by
  have hfind : v.nodeAttribute name = .ok (Element.findAttribute name pairs) := by
    rw [nodeAttribute, h]
    rfl
  change (v.nodeAttribute name).mapError LookupError.element = _
  rw [hfind, findAttribute_eq_lookup]
  rfl

theorem lookupAttribute_text_name (v : Value) (name : Symbol) :
    v.lookupAttribute (.text name.name) = v.lookupAttribute (.symbol name) := by
  rw [lookupAttribute, lookupAttribute, ofLookup_text_name]

/-- A value counts for the lookup by its attributes only. -/
theorem lookupAttribute_congr {v w : Value} (h : v.nodeAttributes = w.nodeAttributes)
    (key : Value) : v.lookupAttribute key = w.lookupAttribute key := by
  simp only [lookupAttribute, nodeAttribute, h]

/-! ## The accessors and reading -/

/-- The parts that the accessors find in a value are those of an element node. -/
structure HasPartsOf (v : Value) (tag : String) (attributes : List (String × String))
    (children : List Node) : Prop where
  /-- The tag is that of the node. -/
  nodeTag : ∃ s, v.nodeTag = .ok s ∧ s.name = tag
  /-- The attributes are those of the node, in the same order. -/
  nodeAttributes : ∃ pairs, v.nodeAttributes = .ok pairs ∧ attributesByName pairs = attributes
  /-- The children are read as those of the node, one by one. -/
  nodeChildren : ∃ items, v.nodeChildren = .ok items ∧
    List.Forall₂ (fun item child => item.read = .ok child) items children
  /-- Under a name, written as a text or as a symbol, the first attribute of the node with that name
  is found, or none. -/
  lookupAttribute : ∀ name, name ≠ "" → ∃ s, Symbol.ofName name = .ok s ∧
    v.lookupAttribute (.text name) = .ok (attributes.lookup name) ∧
    v.lookupAttribute (.symbol s) = .ok (attributes.lookup name)

theorem hasPartsOf_of_read {v : Value} {tag : String} {attributes : List (String × String)}
    {children : List Node} (h : v.read = .ok (.element tag attributes children)) :
    v.HasPartsOf tag attributes children := by
  cases read_eq_ok_iff.mp h with
  | @element kind tag slot pairs items _ htag hslot hitems =>
    have hpairs : (Value.sequence kind (.symbol tag :: slot :: items)).nodeAttributes = .ok pairs :=
      nodeAttributes_eq_ok_iff.mpr ⟨kind, tag, slot, items, htag, rfl, hslot⟩
    refine ⟨⟨tag, nodeTag_element kind htag slot items, rfl⟩, ⟨pairs, hpairs, rfl⟩,
      ⟨items, nodeChildren_element kind htag slot items, hitems⟩, fun name hname => ?_⟩
    obtain ⟨s, rfl⟩ : ∃ s : Symbol, s.name = name := ⟨⟨name, hname⟩, rfl⟩
    refine ⟨s, Symbol.ofName_name s, ?_, lookupAttribute_symbol hpairs s⟩
    rw [lookupAttribute_text_name, lookupAttribute_symbol hpairs]

/-- The attributes of an element are rejected with the report that reading has for them, and reading
has no other report with that path. -/
theorem nodeAttributes_eq_error_iff {v : Value} {tag : Symbol} (h : v.nodeTag = .ok tag)
    {e : InvalidNode} : v.nodeAttributes = .error e ↔ v.read = .error e ∧ e.path = [1] := by
  obtain ⟨kind, slot, children, htag, rfl⟩ := nodeTag_eq_ok_iff.mp h
  rw [nodeAttributes_element kind htag]
  constructor
  · intro he
    refine ⟨?_, (attributesAt_eq_error_iff.mp he).1⟩
    rw [read_element kind (asHead_symbol htag)]
    exact bind_eq_error_iff.mpr (.inl he)
  · rintro ⟨he, hpath⟩
    rw [read_eq_error_iff] at he
    -- Faults in the shape have the empty path, and the slots of children start at 2.
    cases he with
    | shape => simp at hpath
    | attributes _ _ _ hslot =>
      rw [attributesAt, hslot]
      rfl
    | @child _ _ _ _ before =>
      rw [InvalidNode.path_under, List.cons.injEq] at hpath
      omega

/-- Taking a value apart agrees with reading it:

* the elements are the sequences of two slots or more with a tag at the head;
* the parts of a value that is read as an element are those of the node;
* the attributes of an element are rejected exactly when it is rejected for them, with the same
  report, and when they and the children are accepted, so is the element. -/
theorem accessors_agree_with_read (v : Value) :
    (∀ tag, v.nodeTag = .ok tag ↔ ∃ kind slot children, ¬ tag.IsMarker ∧
      v = .sequence kind (.symbol tag :: slot :: children)) ∧
    (∀ tag attributes children, v.read = .ok (.element tag attributes children) →
      v.HasPartsOf tag attributes children) ∧
    ∀ tag, v.nodeTag = .ok tag →
      (∀ e, v.nodeAttributes = .error e ↔ v.read = .error e ∧ e.path = [1]) ∧
      ∃ items, v.nodeChildren = .ok items ∧
        ∀ pairs, v.nodeAttributes = .ok pairs → (∀ item ∈ items, ∃ n, item.read = .ok n) →
          ∃ n, v.read = .ok n := by
  refine ⟨fun _ => nodeTag_eq_ok_iff, fun _ _ _ => hasPartsOf_of_read, fun tag h => ?_⟩
  refine ⟨fun _ => nodeAttributes_eq_error_iff h, ?_⟩
  obtain ⟨kind, slot, children, htag, rfl⟩ := nodeTag_eq_ok_iff.mp h
  refine ⟨children, nodeChildren_element kind htag slot children, fun pairs hpairs hitems => ?_⟩
  rw [nodeAttributes_element kind htag] at hpairs
  have hslot := attributesAt_eq_ok_iff.mp hpairs
  obtain ⟨nodes, hnodes⟩ := exists_forall₂_iff.mpr hitems
  exact ⟨_, read_of_readsAs (.element kind htag hslot hnodes)⟩

/-- A link with the same attribute twice, of which the first is found, and the same link with a
number for an attribute value and another one for a child: the attributes are rejected by both ways
with one report. -/
theorem accessors_agree_on_link :
    let a : Symbol := ⟨"a", by decide⟩
    let cls : Symbol := ⟨"class", by decide⟩
    let good : Value := .list [.symbol a,
      .list [.tuple [.symbol cls, .text "nav"], .tuple [.symbol cls, .text "second"]], .text "Home"]
    let bad : Value := .list [.symbol a, .mapping [(.symbol cls, .int 1)], .int 2]
    let e : InvalidNode := Fault.atPath ⟨.attributeValue cls, .int 1⟩ [1]
    (good.read = .ok (.element "a" [("class", "nav"), ("class", "second")] [.text "Home"]) ∧
      good.HasPartsOf "a" [("class", "nav"), ("class", "second")] [.text "Home"] ∧
      good.lookupAttribute (.text "class") = .ok (some "nav")) ∧
    bad.nodeTag = .ok a ∧ bad.nodeAttributes = .error e ∧ bad.read = .error e := by
  intro a cls good bad e
  have hgood := (accessors_agree_with_read good).2.1
  have hbad := ((accessors_agree_with_read bad).2.2 a rfl).1
  exact ⟨⟨rfl, hgood _ _ _ rfl, rfl⟩, rfl, rfl, ((hbad e).mp rfl).1⟩

/-! ## Putting an element together again -/

/-- The list of the tag, the attributes and the children that the accessors find. -/
def rebuild (v : Value) : Except InvalidNode Value := do
  let tag ← v.nodeTag
  let attributes ← v.nodeAttributes
  let children ← v.nodeChildren
  return .list (.symbol tag :: ofAttributes attributes :: children)

/-- Reading looks at the attribute slot for the attributes only. -/
theorem read_element_congr (kind kind' : SequenceKind) {tag : Symbol} (htag : ¬ tag.IsMarker)
    {slot slot' : Value} (h : slot.readAttributes = slot'.readAttributes) (children : List Value) :
    (Value.sequence kind (.symbol tag :: slot :: children)).read =
      (Value.sequence kind' (.symbol tag :: slot' :: children)).read := by
  rw [read_element kind (asHead_symbol htag), read_element kind' (asHead_symbol htag), h]

/-- An element whose attributes are accepted can be put together again from its parts. The result is
read as the same node, or rejected with the same report, and the accessors find the same parts in
it. -/
theorem read_rebuild_and_accessors_rebuild {v : Value} {pairs : List (Symbol × String)}
    (h : v.nodeAttributes = .ok pairs) :
    ∃ r, v.rebuild = .ok r ∧ r.read = v.read ∧ r.nodeTag = v.nodeTag ∧
      r.nodeAttributes = v.nodeAttributes ∧ r.nodeChildren = v.nodeChildren ∧
      ∀ key, r.lookupAttribute key = v.lookupAttribute key := by
  obtain ⟨kind, tag, slot, children, htag, rfl, hslot⟩ := nodeAttributes_eq_ok_iff.mp h
  have hrebuilt := holdsAttributes_ofAttributes pairs
  -- Both slots hold the same attributes, and nothing else is different.
  have hread : (ofAttributes pairs).readAttributes = slot.readAttributes := by
    rw [readAttributes_eq_ok_iff.mpr hrebuilt, readAttributes_eq_ok_iff.mpr hslot]
  have hpairs : (Value.list (.symbol tag :: ofAttributes pairs :: children)).nodeAttributes =
      (Value.sequence kind (.symbol tag :: slot :: children)).nodeAttributes := by
    rw [nodeAttributes_element .list htag, nodeAttributes_element kind htag, attributesAt,
      attributesAt, hread]
  refine ⟨.list (.symbol tag :: ofAttributes pairs :: children), ?_,
    read_element_congr .list kind htag hread children, ?_, hpairs, ?_,
    lookupAttribute_congr hpairs⟩
  · rw [rebuild, nodeTag_element kind htag, h, nodeChildren_element kind htag]
    rfl
  · rw [nodeTag_element .list htag, nodeTag_element kind htag]
  · rw [nodeChildren_element .list htag, nodeChildren_element kind htag]

/-- A tuple with a mapping for its attributes and a number among its children. Put together again it
is a list with a list of pairs, and the number is still rejected in slot 3. -/
theorem read_rebuild_of_rejected_child :
    let id : Symbol := ⟨"id", by decide⟩
    let v : Value := .tuple [.symbol ⟨"p", by decide⟩, .mapping [(.symbol id, .text "x")],
      .text "a", .int 1]
    let w : Value := .list [.symbol ⟨"p", by decide⟩, .list [.tuple [.symbol id, .text "x"]],
      .text "a", .int 1]
    v.nodeAttributes = .ok [(id, "x")] ∧ v.rebuild = .ok w ∧ w.read = v.read ∧
      w.read = .error (Fault.atPath ⟨.notNode, .int 1⟩ [3]) ∧
      ∀ key, w.lookupAttribute key = v.lookupAttribute key := by
  intro id v w
  have hpairs : v.nodeAttributes = .ok [(id, "x")] := rfl
  obtain ⟨r, hr, hread, -, -, -, hlookup⟩ := read_rebuild_and_accessors_rebuild hpairs
  have hw : v.rebuild = .ok w := rfl
  obtain rfl := Except.ok.inj (hw.symm.trans hr)
  exact ⟨hpairs, hw, hread, rfl, hlookup⟩

end MarkupTree.Value

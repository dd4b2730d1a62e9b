import MarkupTree.Proofs.JsonSpelling
import MarkupTree.Proofs.SlotReports

/-!
# Canonical spellings

Many values are read as the same node. `canonical` picks one of them: lists throughout, attributes
as a list of pairs, and no slots that reading does not look at. A node has a canonical spelling as
soon as its names can be symbols, but an element with the tag of a marker would be read as something
else. The two conditions together (`HasSpellableNames`) describe the nodes that reading yields: the
main result is `exists_read_iff_and_read_canonical`.
-/

namespace MarkupTree

namespace Node

/-! ## The spelling -/

/-- An attribute with its name as a symbol. -/
def canonicalPair : String × String → Except NameError (Symbol × String)
  | (name, value) => do
    let name ← Symbol.ofName name
    return (name, value)

mutual

/-- The canonical spelling of a node as a value. It fails where a name is empty. -/
def canonical : Node → Except NameError Value
  | .text content => .ok (.text content)
  | .raw content => .ok (.list [.symbol .rawString, .text content])
  | .comment content => .ok (.list [.symbol .comment, .null, .text content])
  | .element tag attributes children => do
    let tag ← Symbol.ofName tag
    let pairs ← attributes.mapM canonicalPair
    let children ← canonicalAll children
    return .list (.symbol tag :: .ofAttributes pairs :: children)

/-- The canonical spellings of the nodes of a list. -/
def canonicalAll : List Node → Except NameError (List Value)
  | [] => .ok []
  | n :: ns => do
    let first ← n.canonical
    let others ← canonicalAll ns
    return first :: others

end

theorem canonicalAll_eq_mapM (ns : List Node) : canonicalAll ns = ns.mapM canonical := by
  induction ns with
  | nil => rfl
  | cons n ns ih => rw [canonicalAll, List.mapM_cons, ih]

theorem mapM_canonicalPair_attributesByName (pairs : List (Symbol × String)) :
    (Value.attributesByName pairs).mapM canonicalPair = .ok pairs := by
  apply mapM_map_eq_ok_self
  exact fun pair _ => bind_eq_ok_iff.mpr ⟨pair.1, Symbol.ofName_name pair.1, rfl⟩

theorem canonical_element (tag : Symbol) (pairs : List (Symbol × String)) {children : List Node}
    {values : List Value}
    (h : List.Forall₂ (fun child v => child.canonical = .ok v) children values) :
    (element tag.name (Value.attributesByName pairs) children).canonical =
      .ok (.list (.symbol tag :: .ofAttributes pairs :: values)) := by
  rw [← mapM_eq_ok_iff, ← canonicalAll_eq_mapM] at h
  rw [canonical, Symbol.ofName_name, mapM_canonicalPair_attributesByName, h]
  rfl

/-! ## Reading it back -/

/-- The canonical spelling of a node with spellable names is read as the node. -/
theorem exists_canonical_and_read {n : Node} (h : n.Everywhere HasSpellableNames) :
    ∃ v, n.canonical = .ok v ∧ v.read = .ok n := by
  induction n using treeInduction with
  | text content => exact ⟨_, rfl, Value.read_text content⟩
  | raw content => exact ⟨_, rfl, Value.read_raw .list content []⟩
  | comment content => exact ⟨_, rfl, Value.read_comment .list .null content []⟩
  | element tag attributes children ih =>
    obtain ⟨⟨⟨hempty, hraw, hcomment⟩, hattributes⟩, hchildren⟩ := everywhere_element_iff.mp h
    -- The names are those of symbols, and that of the tag is no marker.
    obtain ⟨tag, htag, rfl⟩ := exists_symbol_name_eq hempty hraw hcomment
    obtain ⟨pairs, rfl⟩ := exists_attributesByName_eq hattributes
    have hvalues : List.Forall₂ (fun child node => ∃ v, canonical child = .ok v ∧ v.read = .ok node)
        children children :=
      List.forall₂_same.mpr fun child hchild => ih child hchild (hchildren child hchild)
    obtain ⟨values, hcanonical, hread⟩ := forall₂_comp_iff.mp hvalues
    refine ⟨_, canonical_element tag pairs hcanonical, ?_⟩
    exact Value.read_of_readsAs
      (.element .list htag (Value.holdsAttributes_ofAttributes pairs) hread)

/-- Reading yields nodes with spellable names only: its names are those of symbols, and a marker at
the head makes no element. -/
theorem everywhere_hasSpellableNames_of_read {v : Value} {n : Node} (h : v.read = .ok n) :
    n.Everywhere HasSpellableNames := by
  -- By induction on the value and not on the node: the children of the node come from slots.
  induction v using Value.slotInduction generalizing n with
  | sequence kind items ih =>
    cases Value.read_eq_ok_iff.mp h with
    | raw => trivial
    | comment => trivial
    | @element _ tag slot pairs children nodes htag hslot hchildren =>
      refine everywhere_element_iff.mpr ⟨⟨?_, fun a ha => ?_⟩, fun node hnode => ?_⟩
      · exact ⟨tag.name_ne_empty, not_or.mp (mt Symbol.isMarker_iff_name.mpr htag)⟩
      · obtain ⟨pair, -, rfl⟩ := List.mem_map.mp ha
        exact pair.1.name_ne_empty
      · obtain ⟨child, hchild, hread⟩ := exists_mem_of_forall₂_right hchildren hnode
        exact ih child (by simp [hchild]) hread
  | atom v hv =>
    cases Value.read_eq_ok_iff.mp h with
    | text => trivial
    | _ => cases hv

/-- Reading yields exactly the nodes with spellable names, and these come back from their canonical
spelling. So the canonical spelling of what a value is read as is defined, is read as the same node
and is written as the same markup. -/
theorem exists_read_iff_and_read_canonical (n : Node) :
    ((∃ v : Value, v.read = .ok n) ↔ n.Everywhere HasSpellableNames) ∧
    (n.Everywhere HasSpellableNames → ∃ w, n.canonical = .ok w ∧ w.read = .ok n) ∧
    ∀ v : Value, v.read = .ok n →
      ∃ w, n.canonical = .ok w ∧ w.read = .ok n ∧ w.toMarkup = v.toMarkup := by
  refine ⟨⟨?_, fun h => ?_⟩, exists_canonical_and_read, fun v hv => ?_⟩
  · rintro ⟨v, hv⟩
    exact everywhere_hasSpellableNames_of_read hv
  · obtain ⟨w, -, hw⟩ := exists_canonical_and_read h
    exact ⟨w, hw⟩
  · obtain ⟨w, hcanonical, hw⟩ :=
      exists_canonical_and_read (everywhere_hasSpellableNames_of_read hv)
    exact ⟨w, hcanonical, hw, by rw [Value.toMarkup, Value.toMarkup, hw, hv]⟩

/-- A tuple with a mapping for its attributes, raw text with a slot too many and a comment with
something in the place of its placeholder: in the canonical spelling all of this is gone. -/
theorem read_canonical_of_loose_spelling :
    let v : Value := .tuple [.symbol ⟨"p", by decide⟩,
      .mapping [(.symbol ⟨"id", by decide⟩, .text "x"), (.symbol ⟨"comment", by decide⟩, .text "")],
      .list [.symbol .rawString, .text "<br>", .int 1],
      .tuple [.symbol .comment, .int 2, .text "c"],
      .list [.symbol ⟨"em", by decide⟩, .tuple []]]
    let n : Node := .element "p" [("id", "x"), ("comment", "")]
      [.raw "<br>", .comment "c", .element "em" [] []]
    let w : Value := .list [.symbol ⟨"p", by decide⟩,
      .list [.tuple [.symbol ⟨"id", by decide⟩, .text "x"],
        .tuple [.symbol ⟨"comment", by decide⟩, .text ""]],
      .list [.symbol .rawString, .text "<br>"], .list [.symbol .comment, .null, .text "c"],
      .list [.symbol ⟨"em", by decide⟩, .list []]]
    v.read = .ok n ∧ n.Everywhere HasSpellableNames ∧ n.canonical = .ok w ∧ w.read = .ok n ∧
      w.toMarkup = v.toMarkup := by
  intro v n w
  have hv : v.read = .ok n := rfl
  have hw : n.canonical = .ok w := rfl
  obtain ⟨hiff, hback, hall⟩ := exists_read_iff_and_read_canonical n
  have hnames : n.Everywhere HasSpellableNames := hiff.mp ⟨v, hv⟩
  obtain ⟨w', hw', hread⟩ := hback hnames
  obtain ⟨w'', hw'', -, hmarkup⟩ := hall v hv
  obtain rfl := Except.ok.inj (hw.symm.trans hw')
  obtain rfl := Except.ok.inj (hw.symm.trans hw'')
  exact ⟨hv, hnames, hw, hread, hmarkup⟩

end Node

end MarkupTree

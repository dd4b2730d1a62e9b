import MarkupTree.Proofs.ConversionSteps
import MarkupTree.Proofs.ReadingSteps

/-!
# Reading the SXML notation

A value of the SXML notation is converted and then read as a node. `read_eq_ok_iff` describes both
passes together, one level deep: nothing is left in it of the value between them. Raw text cannot be
written in SXML, because the slot of its payload is taken by the attributes.
-/

namespace MarkupTree.Sxml

/-- Reads a value of the SXML notation as a node. -/
def read (v : Value) : Except InvalidNode Node := do
  let converted ← toStandard v
  converted.read

/-- Writing markup is reading a node and writing the node. -/
theorem toMarkup_eq_map_read (v : Value) : toMarkup v = (read v).map Node.markup := by
  rw [toMarkup, read]
  cases toStandard v <;> rfl

/-! ## Attributes -/

/-- An entry of an attribute list and the attribute that it is read as. -/
inductive EntryReadsAs : Value → Symbol × String → Prop
  /-- A missing value is the name. -/
  | unvalued (kind name) : EntryReadsAs (.sequence kind [.symbol name]) (name, name.name)
  /-- So is an absent one. -/
  | absent (kind name) : EntryReadsAs (.sequence kind [.symbol name, .null]) (name, name.name)
  /-- Any other value is a text. -/
  | valued (kind name value) :
      EntryReadsAs (.sequence kind [.symbol name, .text value]) (name, value)

/-- An entry is read as an attribute through the pair that it is converted to. -/
theorem entryReadsAs_iff {entry : Value} {a : Symbol × String} :
    EntryReadsAs entry a ↔ ∃ pair, EntryConvertsTo entry pair ∧ pair.IsPairOf a := by
  constructor
  · intro h
    cases h with
    | unvalued kind name => exact ⟨_, .unvalued kind _, .tuple, rfl⟩
    | absent kind name => exact ⟨_, .absent kind _, .tuple, rfl⟩
    | valued kind name value => exact ⟨_, .valued kind _ (by simp), .tuple, rfl⟩
  · obtain ⟨name, value⟩ := a
    rintro ⟨pair, hpair, kind, rfl⟩
    dsimp only at hpair
    cases hpair with
    | unvalued kind => exact .unvalued kind name
    | absent kind => exact .absent kind name
    | valued kind => exact .valued kind name value

/-- An attribute list is read entry by entry. -/
theorem exists_slot_iff {attributes : Option (List Value)} {pairs : List (Symbol × String)} :
    (∃ slot, SlotConvertsTo attributes slot ∧ slot.HoldsAttributes pairs) ↔
      List.Forall₂ EntryReadsAs (attributes.getD []) pairs := by
  constructor
  · rintro ⟨slot, hslot, hholds⟩
    cases hslot with
    | absent => cases hholds; exact .nil
    | pairs h =>
      cases hholds with
      | pairs hpairs =>
        have hentries := forall₂_comp_iff.mpr ⟨_, h, hpairs⟩
        exact hentries.imp fun _ _ => entryReadsAs_iff.mpr
  · intro h
    have hentries := h.imp fun _ _ => entryReadsAs_iff.mp
    obtain ⟨values, hvalues, hpairs⟩ := forall₂_comp_iff.mp hentries
    cases attributes with
    | none => cases hvalues; cases hpairs; exact ⟨.null, .absent, .absent⟩
    | some entries => exact ⟨.list values, .pairs hvalues, .pairs hpairs⟩

/-! ## Nodes -/

/-- One level of a value that is read as a node. -/
inductive ReadsAs : Value → Node → Prop
  /-- A text. -/
  | text (content) : ReadsAs (.text content) (.text content)
  /-- A comment: the first item of the body is its content, and the rest only has to convert. -/
  | comment {v attributes content rest}
      (hparts : HasParts v (.symbol .comment) attributes (.text content :: rest))
      (hconverts : ∃ w, toStandard v = .ok w) : ReadsAs v (.comment content)
  /-- An element with its attributes and the items of its body. -/
  | element {v tag attributes body pairs nodes} (htag : ¬ tag.IsMarker)
      (hparts : HasParts v (.symbol tag) attributes body)
      (hentries : List.Forall₂ EntryReadsAs (attributes.getD []) pairs)
      (hbody : List.Forall₂ (fun item node => read item = .ok node) body nodes) :
      ReadsAs v (.element tag.name (Value.attributesByName pairs) nodes)

/-- What the converted value is read as, the value is read as. -/
theorem readsAs_of_convertsTo {v w : Value} {n : Node} (hv : ConvertsTo v w)
    (hw : w.read = .ok n) : ReadsAs v n := by
  have hconverts : ∃ w, toStandard v = .ok w := ⟨w, toStandard_of_convertsTo hv⟩
  cases hv with
  | text content =>
    cases Value.read_eq_ok_iff.mp hw with
    | text => exact .text content
  | list hparts hslot hbody =>
    cases Value.read_eq_ok_iff.mp hw with
    -- The second slot holds attributes or nothing, but no text.
    | raw => cases hslot
    | comment =>
      -- Only a text is converted to a text.
      cases hbody with
      | cons hitem _ =>
        cases toStandard_eq_ok_iff.mp hitem with
        | text content => exact .comment hparts hconverts
    | element _ htag hholds hchildren =>
      refine .element htag hparts (exists_slot_iff.mp ⟨_, hslot, hholds⟩) ?_
      have hread := forall₂_comp_iff.mpr ⟨_, hbody, hchildren⟩
      exact hread.imp fun item node ⟨w, hitem, hnode⟩ => bind_eq_ok_iff.mpr ⟨w, hitem, hnode⟩

theorem read_of_readsAs {v : Value} {n : Node} (h : ReadsAs v n) : read v = .ok n := by
  cases h with
  | text content => rw [read, toStandard, convert_text]; exact Value.read_text content
  | comment hparts hconverts =>
    obtain ⟨w, hw⟩ := hconverts
    refine bind_eq_ok_iff.mpr ⟨w, hw, ?_⟩
    cases toStandard_eq_ok_iff.mp hw with
    | text => cases hparts
    | list hparts' hslot hbody =>
      obtain ⟨rfl, rfl, rfl⟩ := hparts.unique hparts'
      -- The content is the first item of the converted body, behind the attribute slot.
      cases hbody with
      | cons hitem _ =>
        rw [toStandard, convert_text] at hitem
        cases hitem
        exact Value.read_comment .list _ _ _
  | element htag hparts hentries hbody =>
    obtain ⟨slot, hslot, hholds⟩ := exists_slot_iff.mpr hentries
    simp only [read, bind_eq_ok_iff] at hbody
    obtain ⟨items, hitems, hnodes⟩ := forall₂_comp_iff.mp hbody
    have hv := toStandard_of_convertsTo (.list hparts hslot hitems)
    have hw := Value.read_of_readsAs (.element .list htag hholds hnodes)
    exact bind_eq_ok_iff.mpr ⟨_, hv, hw⟩

/-- A value is read as a node exactly when it is a text, a comment or an element of the notation. -/
theorem read_eq_ok_iff {v : Value} {n : Node} : read v = .ok n ↔ ReadsAs v n := by
  constructor
  · intro h
    obtain ⟨w, hv, hw⟩ := bind_eq_ok_iff.mp h
    exact readsAs_of_convertsTo (toStandard_eq_ok_iff.mp hv) hw
  · exact read_of_readsAs

end MarkupTree.Sxml

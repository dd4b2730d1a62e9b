import MarkupTree.Proofs.ConversionSteps

/-!
# The first fault of an SXML value

The conversion from SXML either reports one fault or yields a value that lies over the first one
item by item. `locatesFault_iff_and_mirrors` describes both outcomes without the conversion of the
value itself. The path of a report goes from body to body, and everything before the items that it
enters is converted (`EntersItem`). It ends at a value without a head, or with a last index 1 at an
attribute list, which is never confused with the first item of a body: an item in slot 1 is no
attribute list.
-/

namespace MarkupTree.Sxml

open Value (AlongPath alongPath_nil alongPath_cons_iff)

/-! ## Paths of the conversion -/

theorem exists_convertAttribute_iff {entry : Value} :
    (∃ pair, (convertAttribute entry).result = .ok pair) ↔ IsEntry entry := by
  simp only [convertAttribute_eq_ok_iff, exists_entryConvertsTo_iff]

/-- A step of a path into an item of a body. The attributes of the list and the items before are
converted. -/
def EntersItem (v : Value) (i : Int) : Prop :=
  ∃ head attributes before item after, HasParts v head attributes (before ++ item :: after) ∧
    i = ((bodyStart attributes + before.length : Nat) : Int) ∧
    (∀ entry ∈ attributes.getD [], ∃ pair, (convertAttribute entry).result = .ok pair) ∧
    ∀ other ∈ before, ∃ w, toStandard other = .ok w

/-- A report leads to the first fault of a value. -/
inductive LocatesFault (v : Value) : InvalidNode → Prop
  /-- At the end of the path there is a value that is neither a text nor a sequence with a head. -/
  | untagged {path node} (halong : AlongPath EntersItem v path) (hat : v.at? path = some node)
      (htext : ∀ content, node ≠ .text content)
      (hhead : ∀ kind head rest, node ≠ .sequence kind (head :: rest)) :
      LocatesFault v (Fault.atPath ⟨.notTagged, node⟩ path)
  /-- At the end of the path there is an attribute list, in slot 1, with something in it that has
  not one or two items, unlike all entries before it. -/
  | entry {path kind before node after} (halong : AlongPath EntersItem v path)
      (hat : v.at? (path ++ [1]) =
        some (.sequence kind (.symbol .attributeList :: (before ++ node :: after))))
      (hbefore : ∀ other ∈ before, IsEntry other) (h : ¬ IsEntry node) :
      LocatesFault v (Fault.atPath ⟨.sxmlAttribute, node⟩ (path ++ [1]))

/-! ## From the fault to the report -/

/-- What fails at the end of a path is reported with the path in front. -/
theorem toStandard_of_alongPath {v w : Value} {path : Path} {e : InvalidNode}
    (h : AlongPath EntersItem v path) (hat : v.at? path = some w)
    (he : toStandard w = .error e) :
    toStandard v = .error { e with path := path ++ e.path } := by
  -- At every step the conversion gets as far as the item, and there it stops.
  induction path generalizing v with
  | nil =>
    cases hat
    exact he
  | cons i path ih =>
    obtain ⟨head, attributes, before, item, after, hparts, rfl, hentries, hbefore⟩ := h.head
    have hslot := hparts.slot?_item
    rw [Value.at?_cons_of_slot? hslot] at hat
    have hitem := ih ((alongPath_cons_iff hslot path).mp h).2 hat
    simp only [exists_convertAttribute_iff] at hentries
    exact toStandard_of_failsWith (.item hparts hentries hbefore hitem)

theorem toStandard_of_locatesFault {v : Value} {e : InvalidNode} (h : LocatesFault v e) :
    toStandard v = .error e := by
  cases h with
  | @untagged path node halong hat htext hhead =>
    have hnode := toStandard_of_failsWith (.notTagged htext hhead)
    rw [toStandard_of_alongPath halong hat hnode, Fault.path_atPath, List.append_nil]
    rfl
  | @entry path kind before node after halong hat hbefore hnode =>
    -- The attribute list is that of the list to which the rest of the path leads.
    rw [Value.at?_append] at hat
    obtain ⟨parent, hparent, hslot⟩ := Option.bind_eq_some_iff.mp hat
    obtain ⟨w, hw, hlist⟩ := Option.bind_eq_some_iff.mp hslot
    cases hlist
    obtain ⟨head, body, hparts⟩ := exists_hasParts_some_iff.mpr ⟨kind, hw⟩
    exact toStandard_of_alongPath halong hparent
      (toStandard_of_failsWith (.entry hparts hbefore hnode))

/-! ## From the report to the fault -/

/-- A report about an item, seen from the list, when everything before the item is converted. -/
theorem LocatesFault.under {v head item : Value} {attributes : Option (List Value)}
    {before after : List Value} {e : InvalidNode} (h : LocatesFault item e)
    (hparts : HasParts v head attributes (before ++ item :: after))
    (hentries : ∀ entry ∈ attributes.getD [], IsEntry entry)
    (hbefore : ∀ other ∈ before, ∃ w, toStandard other = .ok w) :
    LocatesFault v (e.under ((bodyStart attributes + before.length : Nat) : Int)) := by
  have hslot := hparts.slot?_item
  simp only [← exists_convertAttribute_iff] at hentries
  have henters : EntersItem v ((bodyStart attributes + before.length : Nat) : Int) :=
    ⟨head, attributes, before, item, after, hparts, rfl, hentries, hbefore⟩
  cases h with
  | @untagged path node halong hat htext hhead =>
    have halong' := (alongPath_cons_iff hslot path).mpr ⟨henters, halong⟩
    exact .untagged halong' ((Value.at?_cons_of_slot? hslot path).trans hat) htext hhead
  | @entry path kind before' node after' halong hat hbefore' hnode =>
    have halong' := (alongPath_cons_iff hslot path).mpr ⟨henters, halong⟩
    exact .entry halong' ((Value.at?_cons_of_slot? hslot _).trans hat) hbefore' hnode

/-- The report of a conversion that fails leads to the first fault. -/
theorem locatesFault_of_toStandard_eq_error {v : Value} {e : InvalidNode}
    (h : toStandard v = .error e) : LocatesFault v e := by
  induction v using Value.slotInduction generalizing e with
  | sequence kind items ih =>
    cases toStandard_eq_error_iff.mp h with
    | notTagged htext hhead => exact .untagged (alongPath_nil _ _) rfl htext hhead
    | entry hparts hbefore hentry =>
      obtain ⟨kind', hslot⟩ := exists_hasParts_some_iff.mp ⟨_, _, hparts⟩
      exact .entry (alongPath_nil _ _) (Value.at?_cons_of_slot? hslot []) hbefore hentry
    | item hparts hentries hbefore hitem =>
      have hlocates := ih _ (hparts.mem_items (by simp)) hitem
      exact hlocates.under hparts hentries hbefore
  | atom v hv =>
    -- Without slots there is no head.
    cases toStandard_eq_error_iff.mp h with
    | notTagged htext hhead => exact .untagged (alongPath_nil _ _) rfl htext hhead
    | entry hparts => exact absurd hv hparts.items?_ne_none
    | item hparts => exact absurd hv hparts.items?_ne_none

/-! ## The result -/

/-- The attribute slot of a converted list: it is absent or a list of tuples of two items. -/
def IsPairSlot (slot : Value) : Prop :=
  slot = .null ∨
    ∃ pairs, slot = .list pairs ∧ ∀ pair ∈ pairs, ∃ name value, pair = .tuple [name, value]

/-- A converted value, which lies over the value that it comes from. -/
inductive Mirrors : Value → Value → Prop
  /-- A text. -/
  | text (content) : Mirrors (.text content) (.text content)
  /-- A list with an attribute slot, and with as many slots after it as the body has items. -/
  | list {v head attributes body slot items} (hparts : HasParts v head attributes body)
      (hslot : IsPairSlot slot) (hlength : items.length = body.length)
      (hitems : ∀ (i : Nat) item item', body[i]? = some item → items[i]? = some item' →
        Mirrors item item') :
      Mirrors v (.list (head :: slot :: items))

theorem isPairSlot_of_slotConvertsTo {attributes : Option (List Value)} {slot : Value}
    (h : SlotConvertsTo attributes slot) : IsPairSlot slot := by
  cases h with
  | absent => exact .inl rfl
  | pairs hpairs =>
    refine .inr ⟨_, rfl, fun pair hpair => ?_⟩
    obtain ⟨entry, -, hconverts⟩ := exists_mem_of_forall₂_right hpairs hpair
    cases hconverts <;> exact ⟨_, _, rfl⟩

theorem mirrors_of_toStandard_eq_ok {v w : Value} (h : toStandard v = .ok w) : Mirrors v w := by
  induction v using Value.slotInduction generalizing w with
  | sequence kind items ih =>
    cases toStandard_eq_ok_iff.mp h with
    | list hparts hslot hbody =>
      -- The body is converted one by one, so that the items of both lists have the same places.
      refine .list hparts (isPairSlot_of_slotConvertsTo hslot) hbody.length_eq.symm ?_
      intro i item item' hitem hitem'
      obtain ⟨item₀, hitem₀, hconverts⟩ := exists_getElem?_of_forall₂ hbody hitem'
      obtain rfl := Option.some.inj (hitem.symm.trans hitem₀)
      exact ih item (hparts.mem_items (List.mem_of_getElem? hitem)) hconverts
  | atom v hv =>
    cases toStandard_eq_ok_iff.mp h with
    | text content => exact .text content
    | list hparts => exact absurd hv hparts.items?_ne_none

/-- The conversion of a value fails exactly with a report that leads to its first fault, and
otherwise the result has the slots of the value at every level. -/
theorem locatesFault_iff_and_mirrors (v : Value) :
    (∀ e, toStandard v = .error e ↔ LocatesFault v e) ∧
    ∀ w, toStandard v = .ok w → Mirrors v w :=
  ⟨fun _ => ⟨locatesFault_of_toStandard_eq_error, toStandard_of_locatesFault⟩,
    fun _ => mirrors_of_toStandard_eq_ok⟩

/-- Two reports with one path. In the first list the path ends at the attribute list of the second
item, in the second one at an empty list that is the first item of a body. -/
theorem locatesFault_of_ambiguous_path :
    let ul : Value := .symbol ⟨"ul", by decide⟩
    let li : Value := .symbol ⟨"li", by decide⟩
    let id : Value := .list [.symbol ⟨"id", by decide⟩]
    let listed : Value := .list [ul, .list [li, .text "a"],
      .list [li, .list [.symbol .attributeList, id, .text "href"], .int 7]]
    let unlisted : Value := .tuple [ul, .list [.symbol .attributeList, id], .list [li, .list []]]
    let good : Value := .list [ul, .list [.symbol .attributeList, id], .tuple [li]]
    let converted : Value := .list [ul,
      .list [.tuple [.symbol ⟨"id", by decide⟩, .text "id"]], .list [li, .null]]
    LocatesFault listed (Fault.atPath ⟨.sxmlAttribute, .text "href"⟩ [2, 1]) ∧
    LocatesFault unlisted (Fault.atPath ⟨.notTagged, .list []⟩ [2, 1]) ∧
    toStandard good = .ok converted ∧ Mirrors good converted := by
  intro ul li id listed unlisted good converted
  exact ⟨((locatesFault_iff_and_mirrors listed).1 _).mp rfl,
    ((locatesFault_iff_and_mirrors unlisted).1 _).mp rfl, rfl,
    (locatesFault_iff_and_mirrors good).2 _ rfl⟩

end MarkupTree.Sxml

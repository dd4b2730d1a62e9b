import MarkupTree.Proofs.ReadingSteps
import MarkupTree.Proofs.SxmlFault

/-!
# Where the reports about SXML point

A report about a value of the SXML notation comes from its conversion or from reading what it was
converted to. The conversion counts the slots of the value itself. Reading counts those of the
converted value, in which the attributes of every list take up a slot, so its paths lead astray as
soon as they go through a list without an attribute list (`at?_path_eq_none_of_unlisted_parent`).
`sourcePath` counts back: it turns the path of such a report into that of the slot which the
reported part was converted from (`pointsIntoSource_of_toMarkup_eq_error`), and it changes a path
exactly when there is a list without an attribute list on the way.
-/

namespace MarkupTree.Sxml

/-! ## Counting back -/

/-- The slot of a list from which the slot `i` of its conversion comes. Without an attribute list
the body begins one slot earlier. -/
def sourceIndex : Value → (i : Int) → Int
  | .sequence _ (_ :: second :: _), i => if (attributeEntries? second).isSome then i else i - 1
  | _, i => i - 1

/-- The path in a value that leads to where the given path leads in its conversion. -/
def sourcePath (v : Value) : Path → Path
  | [] => []
  | i :: path =>
    match v.slot? (sourceIndex v i) with
    | some w => sourceIndex v i :: sourcePath w path
    | none => sourceIndex v i :: path

/-- A list whose attributes stand in slot 1. -/
def HasAttributeList (v : Value) : Prop :=
  ∃ head entries body, HasParts v head (some entries) body

section Counting

variable {v w head : Value} {attributes : Option (List Value)} {body : List Value}

theorem sourceIndex_of_hasParts (h : HasParts v head attributes body) (i : Int) :
    sourceIndex v i = i - 2 + bodyStart attributes := by
  cases h with
  | listed kind kind' _ entries body =>
    have hentries : attributeEntries? (.sequence kind' (.symbol .attributeList :: entries)) =
        some entries := attributeEntries?_eq_some_iff.mpr ⟨kind', rfl⟩
    rw [sourceIndex, hentries, bodyStart]
    simp
  | @unlisted kind _ body h =>
    cases body with
    | nil =>
      rw [sourceIndex, bodyStart]
      · omega
      · simp
    | cons second rest =>
      rw [sourceIndex, attributeEntries?_eq_none h, bodyStart]
      simp
      omega

theorem sourceIndex_eq_self_iff (h : HasParts v head attributes body) (i : Int) :
    sourceIndex v i = i ↔ HasAttributeList v := by
  rw [sourceIndex_of_hasParts h]
  constructor
  · intro hi
    cases attributes with
    | none => rw [bodyStart] at hi; omega
    | some entries => exact ⟨head, entries, body, h⟩
  · rintro ⟨head', entries, body', h'⟩
    obtain ⟨-, rfl, -⟩ := h.unique h'
    rw [bodyStart]
    omega

theorem sourcePath_cons {i : Int} (h : v.slot? (sourceIndex v i) = some w) (path : Path) :
    sourcePath v (i :: path) = sourceIndex v i :: sourcePath w path := by
  rw [sourcePath, h]

/-- The item `i` of a body, which is the child `i` of the converted list. -/
theorem sourcePath_cons_item (h : HasParts v head attributes body) {i : Nat} {item : Value}
    (hitem : body[i]? = some item) (path : Path) :
    sourcePath v (((2 + i : Nat) : Int) :: path) =
      ((bodyStart attributes + i : Nat) : Int) :: sourcePath item path := by
  have hindex : sourceIndex v ((2 + i : Nat) : Int) = ((bodyStart attributes + i : Nat) : Int) := by
    rw [sourceIndex_of_hasParts h]
    omega
  have hslot : v.slot? (sourceIndex v ((2 + i : Nat) : Int)) = some item := by
    rw [hindex, h.slot?_body, hitem]
  rw [sourcePath_cons hslot, hindex]

/-- Counting back changes nothing exactly when every list on the way has its attribute list. -/
theorem sourcePath_eq_self_iff {source : Value} {path : Path}
    (h : v.at? (sourcePath v path) = some source) :
    sourcePath v path = path ↔ Value.AlongPath (fun l _ => HasAttributeList l) v path := by
  induction path generalizing v with
  | nil => exact ⟨fun _ => Value.alongPath_nil _ v, fun _ => rfl⟩
  | cons i path ih =>
    cases hslot : v.slot? (sourceIndex v i) with
    | none =>
      rw [sourcePath, hslot, Value.at?_cons, hslot] at h
      cases h
    | some w =>
      obtain ⟨head, attributes, body, hparts⟩ := exists_hasParts_of_slot? hslot
      have hindex := sourceIndex_eq_self_iff hparts i
      rw [sourcePath_cons hslot, Value.at?_cons_of_slot? hslot] at h
      rw [sourcePath_cons hslot, List.cons.injEq, ih h]
      -- Where the index stays what it is, it is also that of the slot in the value.
      constructor
      · rintro ⟨hself, halong⟩
        rw [hself] at hslot
        exact (Value.alongPath_cons_iff hslot path).mpr ⟨hindex.mp hself, halong⟩
      · intro halong
        have hself := hindex.mpr halong.head
        rw [hself] at hslot
        exact ⟨hself, ((Value.alongPath_cons_iff hslot path).mp halong).2⟩

end Counting

/-! ## What a report is about -/

/-- A slot of a value, and the part of the conversion that it was converted to. -/
inductive ConvertsToPart : (source part : Value) → Prop
  /-- A value in the body, or the whole value. -/
  | node {source part} (h : toStandard source = .ok part) : ConvertsToPart source part
  /-- An attribute list. -/
  | slot (kind) {entries part} (h : SlotConvertsTo (some entries) part) :
      ConvertsToPart (.sequence kind (.symbol .attributeList :: entries)) part

/-- A report about the conversion of a value, with the slot from which the reported part comes. -/
structure PointsBack (v converted : Value) (e : InvalidNode) (source part : Value) : Prop where
  /-- The path of the report leads to the part in the converted value. -/
  at_path : converted.at? e.path = some part
  /-- Counted back, it leads to the slot in the value itself. -/
  at_sourcePath : v.at? (sourcePath v e.path) = some source
  /-- The part was converted from the slot. -/
  converts : ConvertsToPart source part
  /-- The part is reported itself, or it is an attribute slot that is rejected with the fault. -/
  rejected : part = e.node ∨ part.readAttributes = .error e.toFault

/-- What is reported when a converted value is read was converted from the slot to which the path
leads when it is counted back. -/
theorem exists_pointsBack {v converted : Value} {e : InvalidNode}
    (hv : toStandard v = .ok converted) (he : converted.read = .error e) :
    ∃ source part, PointsBack v converted e source part := by
  induction v using Value.slotInduction generalizing converted e with
  | sequence kind items ih =>
    cases toStandard_eq_ok_iff.mp hv with
    | @list _ head attributes body slot children hparts hslot hbody =>
      cases Value.read_eq_error_iff.mp he with
      | shape => exact ⟨_, _, rfl, rfl, .node hv, .inl rfl⟩
      | @attributes _ tag _ fault _ htag hfault =>
        cases hslot with
        -- Without an attribute list the slot is absent, and nothing is wrong with it.
        | absent => cases hfault
        | pairs hpairs =>
          have hindex := (sourceIndex_eq_self_iff hparts 1).mpr ⟨_, _, _, hparts⟩
          cases hparts with
          | listed _ kind' =>
            refine ⟨_, _, rfl, ?_, .slot kind' (.pairs hpairs), .inr hfault⟩
            rw [Fault.path_atPath, sourcePath, hindex]
            rfl
      | @child _ tag _ _ before child e after htag hholds hbefore hchild =>
        have hget : (before ++ child :: after)[before.length]? = some child := by simp
        -- The child was converted from the item in the same place of the body.
        obtain ⟨item, hitem, hconverts⟩ := exists_getElem?_of_forall₂ hbody hget
        obtain ⟨source, part, hback⟩ :=
          ih item (hparts.mem_items (List.mem_of_getElem? hitem)) hconverts hchild
        refine ⟨source, part, ?_, ?_, hback.converts, hback.rejected⟩
        · have hslot := (Value.slot?_child .list (.symbol tag) slot _ before.length).trans hget
          rw [InvalidNode.path_under, Value.at?_cons_of_slot? hslot, hback.at_path]
        · have hslot := (hparts.slot?_body before.length).trans hitem
          rw [InvalidNode.path_under, sourcePath_cons_item hparts hitem,
            Value.at?_cons_of_slot? hslot, hback.at_sourcePath]
  | atom v hv' =>
    cases toStandard_eq_ok_iff.mp hv with
    | text content => rw [Value.read_text] at he; cases he
    | list hparts => exact absurd hv' hparts.items?_ne_none

/-- A report of the conversion leads to the reported value, or to the attribute list in which it
stands. -/
theorem exists_at?_of_toStandard_eq_error {v : Value} {e : InvalidNode}
    (h : toStandard v = .error e) :
    ∃ w, v.at? e.path = some w ∧ (w = e.node ∨
      ∃ kind entries, w = .sequence kind (.symbol .attributeList :: entries) ∧
        e.node ∈ entries) := by
  cases locatesFault_of_toStandard_eq_error h with
  | untagged _ hat => exact ⟨_, hat, .inl rfl⟩
  | entry _ hat => exact ⟨_, hat, .inr ⟨_, _, rfl, by simp⟩⟩

/-! ## Both kinds of report -/

/-- What the path of a report about a value says about that value. -/
inductive PointsIntoSource (v : Value) (e : InvalidNode) : Prop
  /-- A report of the conversion has a path of the value itself, which leads to the reported value
  or to the attribute list in which it stands. -/
  | conversion {w} (h : toStandard v = .error e) (hat : v.at? e.path = some w)
      (hnode : w = e.node ∨
        ∃ kind entries, w = .sequence kind (.symbol .attributeList :: entries) ∧ e.node ∈ entries)
  /-- A report of reading has a path of the converted value, which has to be counted back unless it
  goes through lists with an attribute list only. -/
  | reading {converted source part} (hv : toStandard v = .ok converted)
      (he : converted.read = .error e) (hback : PointsBack v converted e source part)
      (hself : sourcePath v e.path = e.path ↔
        Value.AlongPath (fun l _ => HasAttributeList l) v e.path)

theorem pointsIntoSource_of_toMarkup_eq_error {v : Value} {e : InvalidNode}
    (h : toMarkup v = .error e) : PointsIntoSource v e := by
  rcases bind_eq_error_iff.mp h with hv | ⟨converted, hv, he⟩
  · obtain ⟨w, hat, hnode⟩ := exists_at?_of_toStandard_eq_error hv
    exact .conversion hv hat hnode
  · have he := map_eq_error_iff.mp he
    obtain ⟨source, part, hback⟩ := exists_pointsBack hv he
    exact .reading hv he hback (sourcePath_eq_self_iff hback.at_sourcePath)

/-- The attributes of an item in slot 1 are reported under the index 2 and counted back to it. -/
theorem pointsIntoSource_of_nested_attribute :
    let item : Value := .list [.symbol ⟨"li", by decide⟩,
      .list [.symbol .attributeList, .list [.symbol ⟨"id", by decide⟩, .int 1]], .text "x"]
    let v : Value := .list [.symbol ⟨"ul", by decide⟩, item]
    let e : InvalidNode := Fault.atPath ⟨.attributeValue ⟨"id", by decide⟩, .int 1⟩ [2, 1]
    toMarkup v = .error e ∧ sourcePath v e.path = [1, 1] ∧ PointsIntoSource v e :=
  ⟨rfl, rfl, pointsIntoSource_of_toMarkup_eq_error rfl⟩

/-- In a paragraph without an attribute list an item with a text for its tag stands in slot 1, but
the path of the report about it leads to slot 2, which does not exist. -/
theorem at?_path_eq_none_of_unlisted_parent :
    let item : Value := .list [.text "b"]
    let v : Value := .list [.symbol ⟨"p", by decide⟩, item]
    let e : InvalidNode := Fault.atPath ⟨.tagNotSymbol, .list [.text "b", .null]⟩ [2]
    toMarkup v = .error e ∧ v.at? e.path = none ∧
      v.at? [1] = some item ∧ toStandard item = .ok e.node :=
  ⟨rfl, rfl, rfl, rfl⟩

end MarkupTree.Sxml

import MarkupTree.Proofs.FirstFailure
import MarkupTree.Proofs.Slots
import MarkupTree.Sxml

/-!
# What the conversion from SXML does at one level

A list of the SXML notation has a head, perhaps an attribute list in slot 1, and a body, which
begins in slot 1 or 2 accordingly (`HasParts`). Everything that the conversion can make of a value
is described one level deep: its result (`toStandard_eq_ok_iff`) and its report
(`toStandard_eq_error_iff`). Proofs about whole trees are inductions over slots with these two
statements as the step.
-/

namespace MarkupTree.Sxml

open Value (mapSlots)

/-! ## The parts of a list -/

/-- A list with its head, the entries of its attribute list if it has one, and its body. -/
inductive HasParts : Value → (head : Value) → (attributes : Option (List Value)) →
    (body : List Value) → Prop
  /-- An attribute list stands in slot 1, and the body begins in slot 2. -/
  | listed (kind kind' head entries body) :
      HasParts
        (.sequence kind (head :: .sequence kind' (.symbol .attributeList :: entries) :: body))
        head (some entries) body
  /-- The body begins in slot 1. -/
  | unlisted (kind head) {body}
      (h : ∀ kind' entries, body.head? ≠ some (.sequence kind' (.symbol .attributeList :: entries))) :
      HasParts (.sequence kind (head :: body)) head none body

/-- What stands at the beginning of a body in slot 1 is no attribute list. -/
theorem attributeEntries?_eq_none {second : Value} {rest : List Value}
    (h : ∀ kind entries,
      (second :: rest).head? ≠ some (.sequence kind (.symbol .attributeList :: entries))) :
    attributeEntries? second = none := by
  rw [Option.eq_none_iff_forall_ne_some]
  intro entries hentries
  obtain ⟨kind, rfl⟩ := attributeEntries?_eq_some_iff.mp hentries
  exact h kind entries rfl

/-- The slot in which the body of a list begins. -/
def bodyStart : (attributes : Option (List Value)) → Nat
  | some _ => 2
  | none => 1

/-- Everything but the empty sequence has parts. -/
theorem exists_hasParts (kind : SequenceKind) (head : Value) (rest : List Value) :
    ∃ attributes body, HasParts (.sequence kind (head :: rest)) head attributes body := by
  by_cases h : ∃ kind' entries,
      rest.head? = some (.sequence kind' (.symbol .attributeList :: entries))
  · obtain ⟨kind', entries, h⟩ := h
    obtain ⟨body, rfl⟩ := List.head?_eq_some_iff.mp h
    exact ⟨some entries, body, .listed kind kind' head entries body⟩
  · refine ⟨none, rest, .unlisted kind head fun kind' entries h' => h ⟨kind', entries, h'⟩⟩

/-- A value with a slot has a head. -/
theorem exists_hasParts_of_slot? {v w : Value} {i : Int} (h : v.slot? i = some w) :
    ∃ head attributes body, HasParts v head attributes body := by
  cases v with
  | sequence kind items =>
    cases items with
    | nil => cases i <;> cases h
    | cons head rest => exact ⟨head, exists_hasParts kind head rest⟩
  | _ => cases i <;> cases h

/-- The entries of a list are those of the attribute list in slot 1. -/
theorem exists_hasParts_some_iff {v : Value} {entries : List Value} :
    (∃ head body, HasParts v head (some entries) body) ↔
      ∃ kind, v.slot? 1 = some (.sequence kind (.symbol .attributeList :: entries)) := by
  constructor
  · rintro ⟨head, body, ⟨kind, kind', _, _, _⟩⟩
    exact ⟨kind', rfl⟩
  · rintro ⟨kind, h⟩
    obtain ⟨head, attributes, body, hparts⟩ := exists_hasParts_of_slot? h
    cases hparts with
    | listed kind' kind'' head entries' body =>
      cases h
      exact ⟨head, body, .listed kind' kind head entries body⟩
    | unlisted _ _ hnone =>
      -- Slot 1 is where the body begins.
      refine absurd ?_ (hnone kind entries)
      rw [List.head?_eq_getElem?]
      exact h

/-- The head, the attribute list and the body are determined by the value. -/
theorem HasParts.unique {v head head' : Value} {attributes attributes' : Option (List Value)}
    {body body' : List Value} (h : HasParts v head attributes body)
    (h' : HasParts v head' attributes' body') :
    head = head' ∧ attributes = attributes' ∧ body = body' := by
  -- A list with an attribute list is not one without.
  cases h with
  | listed =>
    cases h' with
    | listed => exact ⟨rfl, rfl, rfl⟩
    | unlisted _ _ hnone => exact absurd rfl (hnone _ _)
  | unlisted _ _ hnone =>
    cases h' with
    | listed => exact absurd rfl (hnone _ _)
    | unlisted => exact ⟨rfl, rfl, rfl⟩

/-- The items of the body stand in the slots from the start of the body on. -/
theorem HasParts.slot?_body {v head : Value} {attributes : Option (List Value)}
    {body : List Value} (h : HasParts v head attributes body) (i : Nat) :
    v.slot? ((bodyStart attributes + i : Nat) : Int) = body[i]? := by
  cases h with
  | listed kind kind' head entries body =>
    rw [Value.slot?_sequence, bodyStart, Nat.add_comm]
    rfl
  | unlisted kind head h =>
    rw [Value.slot?_sequence, bodyStart, Nat.add_comm]
    rfl

/-- The slot of an item of the body is found from the items before it. -/
theorem HasParts.slot?_item {v head : Value} {attributes : Option (List Value)}
    {before after : List Value} {item : Value}
    (h : HasParts v head attributes (before ++ item :: after)) :
    v.slot? ((bodyStart attributes + before.length : Nat) : Int) = some item := by
  rw [h.slot?_body]
  simp

/-- Only a sequence has parts. -/
theorem HasParts.items?_ne_none {v head : Value} {attributes : Option (List Value)}
    {body : List Value} (h : HasParts v head attributes body) : v.items? ≠ none := by
  cases h <;> simp

/-- The head is the first item. -/
theorem HasParts.head?_items {kind : SequenceKind} {items : List Value} {head : Value}
    {attributes : Option (List Value)} {body : List Value}
    (h : HasParts (.sequence kind items) head attributes body) : items.head? = some head := by
  cases h <;> rfl

/-- The body consists of items of the sequence. -/
theorem HasParts.mem_items {kind : SequenceKind} {items : List Value} {head : Value}
    {attributes : Option (List Value)} {body : List Value}
    (h : HasParts (.sequence kind items) head attributes body) {item : Value}
    (hitem : item ∈ body) : item ∈ items := by
  cases h <;> simp [hitem]

/-! ## Attribute entries -/

/-- An entry of an attribute list has a name and perhaps a value. -/
def IsEntry (entry : Value) : Prop :=
  ∃ kind items, entry = .sequence kind items ∧ (items.length = 1 ∨ items.length = 2)

/-- An entry and the pair that it is converted to. -/
inductive EntryConvertsTo : Value → Value → Prop
  /-- A missing value is that of the name. -/
  | unvalued (kind name) :
      EntryConvertsTo (.sequence kind [name]) (.tuple [name, .text name.asText])
  /-- So is an absent one. -/
  | absent (kind name) :
      EntryConvertsTo (.sequence kind [name, .null]) (.tuple [name, .text name.asText])
  /-- Any other value is kept. -/
  | valued (kind name) {value} (h : value ≠ .null) :
      EntryConvertsTo (.sequence kind [name, value]) (.tuple [name, value])

/-- An entry is converted to the pair that belongs to it. -/
theorem convertAttribute_of_entryConvertsTo {entry pair : Value} (h : EntryConvertsTo entry pair) :
    (convertAttribute entry).result = .ok pair := by
  cases h with
  | unvalued kind name => rfl
  | absent kind name => rfl
  | valued kind name h =>
    unfold convertAttribute
    split
    · next heq => simp at heq
    · next heq => simp_all
    · next heq => cases heq; rfl
    · next hvalue => exact absurd rfl (hvalue kind name _)

/-- What is no entry is reported at its own place. -/
theorem convertAttribute_of_not_isEntry {entry : Value} (h : ¬ IsEntry entry) :
    (convertAttribute entry).result = .error (Fault.atPath ⟨.sxmlAttribute, entry⟩ []) := by
  unfold convertAttribute
  split
  · next kind name => exact absurd ⟨kind, _, rfl, .inl rfl⟩ h
  · next kind name => exact absurd ⟨kind, _, rfl, .inr rfl⟩ h
  · next kind name value _ => exact absurd ⟨kind, _, rfl, .inr rfl⟩ h
  · rfl

/-- The entries are what can be converted to a pair. -/
theorem exists_entryConvertsTo_iff {entry : Value} :
    (∃ pair, EntryConvertsTo entry pair) ↔ IsEntry entry := by
  constructor
  · rintro ⟨pair, h⟩
    cases h with
    | unvalued kind name => exact ⟨kind, _, rfl, .inl rfl⟩
    | absent kind name => exact ⟨kind, _, rfl, .inr rfl⟩
    | valued kind name h => exact ⟨kind, _, rfl, .inr rfl⟩
  · rintro ⟨kind, items, rfl, hlength | hlength⟩
    · obtain ⟨name, rfl⟩ := List.length_eq_one_iff.mp hlength
      exact ⟨_, .unvalued kind name⟩
    · obtain ⟨name, value, rfl⟩ := List.length_eq_two.mp hlength
      by_cases hvalue : value = .null
      · subst hvalue
        exact ⟨_, .absent kind name⟩
      · exact ⟨_, .valued kind name hvalue⟩

/-- The conversion of an entry yields this pair and no other. -/
theorem convertAttribute_eq_ok_iff {entry pair : Value} :
    (convertAttribute entry).result = .ok pair ↔ EntryConvertsTo entry pair := by
  constructor
  · intro h
    by_cases hentry : IsEntry entry
    · obtain ⟨pair', hpair⟩ := exists_entryConvertsTo_iff.mpr hentry
      rw [convertAttribute_of_entryConvertsTo hpair] at h
      rwa [← Except.ok.inj h]
    · rw [convertAttribute_of_not_isEntry hentry] at h
      cases h
  · exact convertAttribute_of_entryConvertsTo

/-- The conversion of an entry fails for this reason and no other. -/
theorem convertAttribute_eq_error_iff {entry : Value} {e : InvalidNode} :
    (convertAttribute entry).result = .error e ↔
      ¬ IsEntry entry ∧ e = Fault.atPath ⟨.sxmlAttribute, entry⟩ [] := by
  by_cases hentry : IsEntry entry
  · obtain ⟨pair, hpair⟩ := exists_entryConvertsTo_iff.mpr hentry
    simp [convertAttribute_of_entryConvertsTo hpair, hentry]
  · simp [convertAttribute_of_not_isEntry hentry, hentry, eq_comm]

/-- The entries are converted one by one. -/
theorem result_convertAttributes (entries : List Value) :
    (convertAttributes entries).result =
      entries.mapM fun entry => (convertAttribute entry).result := by
  induction entries with
  | nil => rfl
  | cons entry entries ih =>
    rw [convertAttributes, List.mapM_cons, Traced.result_bind]
    simp only [Traced.result_bind, ih]
    rfl

/-- The attribute slot that is put into the second place. -/
inductive SlotConvertsTo : (attributes : Option (List Value)) → Value → Prop
  /-- There is no attribute list. -/
  | absent : SlotConvertsTo none .null
  /-- The entries become pairs one by one. -/
  | pairs {entries pairs} (h : List.Forall₂ EntryConvertsTo entries pairs) :
      SlotConvertsTo (some entries) (.list pairs)

/-- An attribute list can be converted when each of its items is an entry. -/
theorem exists_slotConvertsTo_iff {attributes : Option (List Value)} :
    (∃ slot, SlotConvertsTo attributes slot) ↔ ∀ entry ∈ attributes.getD [], IsEntry entry := by
  simp only [← exists_entryConvertsTo_iff]
  rw [← exists_forall₂_iff]
  cases attributes with
  | none => exact ⟨fun _ => ⟨[], .nil⟩, fun _ => ⟨_, .absent⟩⟩
  | some entries =>
    constructor
    · rintro ⟨slot, _ | h⟩
      exact ⟨_, h⟩
    · rintro ⟨pairs, h⟩
      exact ⟨_, .pairs h⟩

/-! ## One equation for all lists -/

/-- The attribute slot of a converted list. -/
def convertSlot : (attributes : Option (List Value)) → Except InvalidNode Value
  | none => .ok .null
  | some entries => ((convertAttributes entries).result.mapError (·.under 1)).map .list

/-- The conversion of an attribute list yields this slot and no other. -/
theorem convertSlot_eq_ok_iff {attributes : Option (List Value)} {slot : Value} :
    convertSlot attributes = .ok slot ↔ SlotConvertsTo attributes slot := by
  cases attributes with
  | none =>
    rw [convertSlot]
    constructor
    · rintro ⟨⟩
      exact .absent
    · rintro ⟨⟩
      rfl
  | some entries =>
    simp only [convertSlot, map_eq_ok_iff, mapError_eq_ok_iff, result_convertAttributes,
      mapM_eq_ok_iff, convertAttribute_eq_ok_iff]
    constructor
    · rintro ⟨pairs, h, rfl⟩
      exact .pairs h
    · rintro (_ | h)
      exact ⟨_, h, rfl⟩

/-- The first entry that cannot be converted is reported, under the index of the attribute list. -/
theorem convertSlot_eq_error_iff {attributes : Option (List Value)} {e : InvalidNode} :
    convertSlot attributes = .error e ↔
      ∃ before entry after, attributes = some (before ++ entry :: after) ∧
        (∀ other ∈ before, IsEntry other) ∧ ¬ IsEntry entry ∧
        e = Fault.atPath ⟨.sxmlAttribute, entry⟩ [1] := by
  cases attributes with
  | none => simp [convertSlot]
  | some entries =>
    simp only [convertSlot, map_eq_error_iff, mapError_eq_error_iff, result_convertAttributes,
      mapM_eq_error_iff, convertAttribute_eq_ok_iff, convertAttribute_eq_error_iff,
      exists_entryConvertsTo_iff, Option.some.injEq]
    constructor
    · rintro ⟨_, ⟨before, entry, after, rfl, hbefore, hentry, rfl⟩, rfl⟩
      exact ⟨before, entry, after, rfl, hbefore, hentry, rfl⟩
    · rintro ⟨before, entry, after, rfl, hbefore, hentry, rfl⟩
      exact ⟨_, ⟨before, entry, after, rfl, hbefore, hentry, rfl⟩, rfl⟩

/-- The items of a body are converted one by one, and errors are placed in their slots. -/
theorem result_convertBody (i : Nat) (body : List Value) :
    (convertBody i body).result = mapSlots toStandard i body := by
  induction body generalizing i with
  | nil => rw [convertBody_nil, mapSlots]; rfl
  | cons item body ih =>
    rw [convertBody_cons, mapSlots, Traced.result_bind]
    simp only [Traced.result_bind, Traced.result_mapError, ih]
    rfl

/-- The attributes are converted before the body. -/
theorem toStandard_of_hasParts {v head : Value} {attributes : Option (List Value)}
    {body : List Value} (h : HasParts v head attributes body) :
    toStandard v = do
      let slot ← convertSlot attributes
      let items ← mapSlots toStandard (bodyStart attributes) body
      return .list (head :: slot :: items) := by
  cases h with
  | listed kind kind' head entries body =>
    have hentries : attributeEntries? (.sequence kind' (.symbol .attributeList :: entries)) =
        some entries := attributeEntries?_eq_some_iff.mpr ⟨kind', rfl⟩
    rw [toStandard, convert_of_attributeEntries? kind head hentries]
    simp only [Traced.result_bind, Traced.result_mapError, result_convertBody, convertSlot,
      bodyStart]
    cases (convertAttributes entries).result <;> rfl
  | @unlisted kind head body h =>
    cases body with
    | nil => rw [toStandard, convert, mapSlots]; rfl
    | cons second rest =>
      rw [toStandard, convert_of_attributeEntries?_eq_none kind head (attributeEntries?_eq_none h),
        Traced.result_bind, result_convertBody]
      rfl

/-! ## Converted values -/

/-- One level of a value that is converted. -/
inductive ConvertsTo : Value → Value → Prop
  /-- A text. -/
  | text (content) : ConvertsTo (.text content) (.text content)
  /-- A list, with the items of its body converted one by one. -/
  | list {v head attributes body slot items} (hparts : HasParts v head attributes body)
      (hslot : SlotConvertsTo attributes slot)
      (hbody : List.Forall₂ (fun item item' => toStandard item = .ok item') body items) :
      ConvertsTo v (.list (head :: slot :: items))

/-! ## Rejected values -/

/-- One level of a value that cannot be converted. -/
inductive FailsWith : Value → InvalidNode → Prop
  /-- Neither a text nor a sequence with a head. -/
  | notTagged {v} (htext : ∀ content, v ≠ .text content)
      (hhead : ∀ kind head rest, v ≠ .sequence kind (head :: rest)) :
      FailsWith v (Fault.atPath ⟨.notTagged, v⟩ [])
  /-- Something in the attribute list is no entry. -/
  | entry {v head before entry after body}
      (hparts : HasParts v head (some (before ++ entry :: after)) body)
      (hbefore : ∀ other ∈ before, IsEntry other) (h : ¬ IsEntry entry) :
      FailsWith v (Fault.atPath ⟨.sxmlAttribute, entry⟩ [1])
  /-- An item of the body cannot be converted, and nothing before it fails. -/
  | item {v head attributes before item after e}
      (hparts : HasParts v head attributes (before ++ item :: after))
      (hentries : ∀ entry ∈ attributes.getD [], IsEntry entry)
      (hbefore : ∀ other ∈ before, ∃ w, toStandard other = .ok w)
      (h : toStandard item = .error e) :
      FailsWith v (e.under ((bodyStart attributes + before.length : Nat) : Int))

/-! ## The two descriptions and the conversion -/

/-- A value is converted to what belongs to it. -/
theorem toStandard_of_convertsTo {v w : Value} (h : ConvertsTo v w) : toStandard v = .ok w := by
  cases h with
  | text content => rw [toStandard, convert_text]; rfl
  | list hparts hslot hbody =>
    rw [toStandard_of_hasParts hparts, convertSlot_eq_ok_iff.mpr hslot,
      Value.mapSlots_eq_ok_iff.mpr hbody]
    rfl

/-- A value that cannot be converted is reported as it should be. -/
theorem toStandard_of_failsWith {v : Value} {e : InvalidNode} (h : FailsWith v e) :
    toStandard v = .error e := by
  cases h with
  | notTagged htext hhead =>
    cases v with
    | text content => exact absurd rfl (htext content)
    | sequence kind items =>
      cases items with
      | nil => rw [toStandard, convert] <;> simp
      | cons head rest => exact absurd rfl (hhead kind head rest)
    | _ => rw [toStandard, convert] <;> simp
  | @entry head before entry after body hparts hbefore h =>
    have hslot : convertSlot (some (before ++ entry :: after)) =
        .error (Fault.atPath ⟨.sxmlAttribute, entry⟩ [1]) :=
      convertSlot_eq_error_iff.mpr ⟨before, entry, after, rfl, hbefore, h, rfl⟩
    rw [toStandard_of_hasParts hparts, hslot]
    rfl
  | @item head attributes before item after e hparts hentries hbefore h =>
    -- The attributes are converted, so the items of the body are, up to the item that fails.
    obtain ⟨slot, hslot⟩ := exists_slotConvertsTo_iff.mpr hentries
    have hbody : mapSlots toStandard (bodyStart attributes) (before ++ item :: after) =
        .error (e.under ((bodyStart attributes + before.length : Nat) : Int)) :=
      Value.mapSlots_eq_error_iff.mpr ⟨before, item, after, e, rfl, hbefore, h, rfl⟩
    rw [toStandard_of_hasParts hparts, convertSlot_eq_ok_iff.mpr hslot, hbody]
    rfl

/-- The two descriptions leave no value out. -/
theorem convertsTo_or_failsWith (v : Value) :
    (∃ w, ConvertsTo v w) ∨ ∃ e, FailsWith v e := by
  match v with
  | .text content => exact .inl ⟨_, .text content⟩
  | .sequence kind (head :: rest) =>
    obtain ⟨attributes, body, hparts⟩ := exists_hasParts kind head rest
    -- The body counts only when all entries of the attribute list are converted.
    cases hslot : convertSlot attributes with
    | error e =>
      obtain ⟨before, entry, after, rfl, hbefore, hentry, -⟩ := convertSlot_eq_error_iff.mp hslot
      exact .inr ⟨_, .entry hparts hbefore hentry⟩
    | ok slot =>
      have hslot := convertSlot_eq_ok_iff.mp hslot
      cases hbody : mapSlots toStandard (bodyStart attributes) body with
      | ok items => exact .inl ⟨_, .list hparts hslot (Value.mapSlots_eq_ok_iff.mp hbody)⟩
      | error e =>
        obtain ⟨before, item, after, e₀, rfl, hbefore, hitem, -⟩ :=
          Value.mapSlots_eq_error_iff.mp hbody
        have hentries := exists_slotConvertsTo_iff.mp ⟨slot, hslot⟩
        exact .inr ⟨_, .item hparts hentries hbefore hitem⟩
  | .sequence _ [] | .null | .bool _ | .int _ | .float _ | .mapping _ | .symbol _ | .node _ =>
    exact .inr ⟨_, .notTagged (by simp) (by simp)⟩

/-- A value is converted exactly when it is a text, or a list whose entries and items are. -/
theorem toStandard_eq_ok_iff {v w : Value} : toStandard v = .ok w ↔ ConvertsTo v w :=
  eq_ok_iff_of_total (fun _ => toStandard_of_convertsTo) (fun _ => toStandard_of_failsWith)
    (convertsTo_or_failsWith v)

/-- The conversion fails exactly on a value without a head, on the first thing in an attribute list
that is no entry, or on the first item of a body that fails. -/
theorem toStandard_eq_error_iff {v : Value} {e : InvalidNode} :
    toStandard v = .error e ↔ FailsWith v e :=
  eq_error_iff_of_total (fun _ => toStandard_of_convertsTo) (fun _ => toStandard_of_failsWith)
    (convertsTo_or_failsWith v)

end MarkupTree.Sxml

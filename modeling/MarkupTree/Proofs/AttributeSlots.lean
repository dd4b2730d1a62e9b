import MarkupTree.Proofs.FirstFailure
import MarkupTree.Reading

/-!
# What an attribute slot holds

An attribute slot is read in two passes, first the shapes of the entries and then their names and
values. `readAttributes_eq_ok_iff` says what comes out of both: the slot is absent, a mapping from
symbols to texts or a sequence of pairs of a symbol and a text, and its entries are the attributes,
in order and one by one. `readAttributes_eq_error_iff` says what is reported when one of the passes
fails: an item that is no pair comes before any bad name or value, wherever they stand.
-/

namespace MarkupTree.Value

/-! ## Entries as pairs -/

/-- A slot and its entries as pairs, before their names and values are looked at. -/
inductive ListsPairs : Value → List (Value × Value) → Prop
  /-- No entries are written down. -/
  | absent : ListsPairs .null []
  /-- The entries of a mapping are pairs. -/
  | mapping (entries) : ListsPairs (.mapping entries) entries
  /-- The items of a sequence are pairs one by one. -/
  | sequence (kind) {entries pairs}
      (h : List.Forall₂ (fun entry pair => ∃ kind, entry = .sequence kind [pair.1, pair.2])
        entries pairs) :
      ListsPairs (.sequence kind entries) pairs

/-- A pair is read from a list or tuple of two items. -/
theorem readPair_eq_ok_iff {entry : Value} {pair : Value × Value} :
    readPair entry = .ok pair ↔ ∃ kind, entry = .sequence kind [pair.1, pair.2] := by
  constructor
  · intro h
    unfold readPair at h
    split at h
    · next kind name value => cases h; exact ⟨kind, rfl⟩
    · cases h
  · rintro ⟨kind, rfl⟩
    rfl

/-- An attribute is read from a symbol and a text. -/
theorem readAttribute_eq_ok_iff {pair : Value × Value} {a : Symbol × String} :
    readAttribute pair = .ok a ↔ pair = (.symbol a.1, .text a.2) := by
  constructor
  · intro h
    unfold readAttribute at h
    split at h
    · cases h; rfl
    · cases h
    · cases h
  · rintro rfl
    rfl

/-- A mapping lists its entries. -/
theorem listsPairs_mapping_iff {entries pairs : List (Value × Value)} :
    (Value.mapping entries).ListsPairs pairs ↔ entries = pairs := by
  constructor
  · rintro ⟨⟩
    rfl
  · rintro rfl
    exact .mapping entries

/-- A sequence lists a pair for each of its items. -/
theorem listsPairs_sequence_iff {kind : SequenceKind} {entries : List Value}
    {pairs : List (Value × Value)} :
    (Value.sequence kind entries).ListsPairs pairs ↔
      List.Forall₂ (fun entry pair => ∃ kind, entry = .sequence kind [pair.1, pair.2])
        entries pairs := by
  constructor
  · rintro (_ | _ | ⟨_, h⟩)
    exact h
  · exact .sequence kind

/-- The first pass yields the entries of the slot as pairs. -/
theorem attributePairs_eq_ok_iff {slot : Value} {pairs : List (Value × Value)} :
    slot.attributePairs = .ok pairs ↔ slot.ListsPairs pairs := by
  constructor
  · intro h
    unfold attributePairs at h
    split at h
    · cases h; exact .absent
    · cases h; exact .mapping _
    · simp only [mapM_eq_ok_iff, readPair_eq_ok_iff] at h
      exact .sequence _ h
    · cases h
  · rintro (_ | _ | ⟨kind, h⟩)
    · rfl
    · rfl
    · simp only [← readPair_eq_ok_iff] at h
      exact mapM_eq_ok_iff.mpr h

/-! ## Accepted slots -/

/-- An entry of a sequence that is the pair of a name and a value. -/
def IsPairOf (entry : Value) (a : Symbol × String) : Prop :=
  ∃ kind, entry = .sequence kind [.symbol a.1, .text a.2]

/-- A slot and the attributes that stand in it. -/
inductive HoldsAttributes : Value → List (Symbol × String) → Prop
  /-- No attributes are written down. -/
  | absent : HoldsAttributes .null []
  /-- A mapping has symbols as keys and texts as values. -/
  | mapping {entries attributes}
      (h : List.Forall₂ (fun entry a => entry = (.symbol a.1, .text a.2)) entries attributes) :
      HoldsAttributes (.mapping entries) attributes
  /-- A sequence consists of pairs. -/
  | pairs {kind entries attributes} (h : List.Forall₂ IsPairOf entries attributes) :
      HoldsAttributes (.sequence kind entries) attributes

/-- An item holds an attribute when it is a pair, and the pair is an attribute. -/
theorem isPairOf_iff {entry : Value} {a : Symbol × String} :
    IsPairOf entry a ↔
      ∃ pair : Value × Value, (∃ kind, entry = .sequence kind [pair.1, pair.2]) ∧
        pair = (.symbol a.1, .text a.2) := by
  constructor
  · intro h
    exact ⟨(.symbol a.1, .text a.2), h, rfl⟩
  · rintro ⟨pair, h, rfl⟩
    exact h

/-- Both passes over a sequence succeed exactly when its entries are pairs of a symbol and a
text. -/
theorem forall₂_isPairOf_iff {entries : List Value} {attributes : List (Symbol × String)} :
    List.Forall₂ IsPairOf entries attributes ↔
      ∃ pairs : List (Value × Value),
        List.Forall₂ (fun entry pair => ∃ kind, entry = .sequence kind [pair.1, pair.2])
          entries pairs ∧
        List.Forall₂ (fun pair a => pair = (.symbol a.1, .text a.2)) pairs attributes := by
  rw [← forall₂_comp_iff]
  simp only [← isPairOf_iff]

/-- A slot is accepted exactly when it holds attributes, and they are what is read from it. -/
theorem readAttributes_eq_ok_iff {slot : Value} {attributes : List (Symbol × String)} :
    slot.readAttributes = .ok attributes ↔ slot.HoldsAttributes attributes := by
  simp only [readAttributes, bind_eq_ok_iff, attributePairs_eq_ok_iff, mapM_eq_ok_iff,
    readAttribute_eq_ok_iff]
  constructor
  · rintro ⟨pairs, hpairs, hattributes⟩
    cases hpairs with
    | absent => cases hattributes; exact .absent
    | mapping => exact .mapping hattributes
    | sequence kind hentries =>
      exact .pairs (forall₂_isPairOf_iff.mpr ⟨pairs, hentries, hattributes⟩)
  · rintro (_ | h | h)
    · exact ⟨[], .absent, .nil⟩
    · exact ⟨_, .mapping _, h⟩
    · obtain ⟨pairs, hentries, hattributes⟩ := forall₂_isPairOf_iff.mp h
      exact ⟨pairs, .sequence _ hentries, hattributes⟩

/-! ## Rejected slots -/

/-- A sequence of two items, of whatever type they are. -/
def IsPair (entry : Value) : Prop :=
  ∃ kind name value, entry = .sequence kind [name, value]

/-- An entry with a symbol for its name and a text for its value. -/
def IsAttribute (pair : Value × Value) : Prop :=
  ∃ name content, pair = (.symbol name, .text content)

/-- What is wrong with an entry that is a pair. -/
inductive PairFault (pair : Value × Value) : Fault → Prop
  /-- The name is no symbol, and the value does not matter. -/
  | name (h : ∀ s, pair.1 ≠ .symbol s) : PairFault pair ⟨.attributeName, pair.1⟩
  /-- The name is a symbol, but the value is no text. -/
  | value {s} (hname : pair.1 = .symbol s) (h : ∀ content, pair.2 ≠ .text content) :
      PairFault pair ⟨.attributeValue s, pair.2⟩

/-- What is wrong with a slot that is rejected. -/
inductive SlotFault (slot : Value) : Fault → Prop
  /-- The slot is of another type. -/
  | slot (hnull : slot ≠ .null) (hmapping : ∀ entries, slot ≠ .mapping entries)
      (hitems : slot.items? = none) : SlotFault slot ⟨.attributeSlot, slot⟩
  /-- Something in a sequence is no pair. The first such item counts, and what is in the pairs
  before it does not. -/
  | entry {before entry after} (hitems : slot.items? = some (before ++ entry :: after))
      (hbefore : ∀ other ∈ before, other.IsPair) (h : ¬ entry.IsPair) :
      SlotFault slot ⟨.attributeEntry, entry⟩
  /-- All entries are pairs. The first one that is no attribute counts. -/
  | pair {before pair after fault} (hpairs : slot.ListsPairs (before ++ pair :: after))
      (hbefore : ∀ other ∈ before, IsAttribute other) (h : PairFault pair fault) :
      SlotFault slot fault

/-- Anything but a pair is reported as it is. -/
theorem readPair_eq_error_iff {entry : Value} {fault : Fault} :
    readPair entry = .error fault ↔ ¬ entry.IsPair ∧ fault = ⟨.attributeEntry, entry⟩ := by
  unfold readPair
  split
  · next kind name value =>
    have hpair : (Value.sequence kind [name, value]).IsPair := ⟨kind, name, value, rfl⟩
    simp [hpair]
  · next hentry =>
    have hpair : ¬ entry.IsPair := fun ⟨kind, name, value, h⟩ => hentry kind name value h
    simp [hpair, eq_comm]

/-- Exactly the pairs are read. -/
theorem exists_readPair_iff {entry : Value} :
    (∃ pair, readPair entry = .ok pair) ↔ entry.IsPair := by
  simp only [readPair_eq_ok_iff]
  constructor
  · rintro ⟨pair, kind, h⟩
    exact ⟨kind, pair.1, pair.2, h⟩
  · rintro ⟨kind, name, value, h⟩
    exact ⟨(name, value), kind, h⟩

/-- Exactly the attributes are read. -/
theorem exists_readAttribute_iff {pair : Value × Value} :
    (∃ a, readAttribute pair = .ok a) ↔ IsAttribute pair := by
  simp only [readAttribute_eq_ok_iff]
  constructor
  · rintro ⟨a, h⟩
    exact ⟨a.1, a.2, h⟩
  · rintro ⟨name, content, h⟩
    exact ⟨(name, content), h⟩

/-- The name of a pair is looked at before its value. -/
theorem readAttribute_eq_error_iff {pair : Value × Value} {fault : Fault} :
    readAttribute pair = .error fault ↔ PairFault pair fault := by
  unfold readAttribute
  -- An attribute, a symbol with a bad value, a bad name: in each case the other faults are absurd.
  split
  · constructor
    · nofun
    · rintro (hname | ⟨-, hvalue⟩)
      · exact absurd rfl (hname _)
      · exact absurd rfl (hvalue _)
  · next name value hvalue =>
    constructor
    · rintro ⟨⟩
      exact .value rfl hvalue
    · rintro (hname | ⟨⟨⟩, -⟩)
      · exact absurd rfl (hname name)
      · rfl
  · next name value _ hname =>
    constructor
    · rintro ⟨⟩
      exact .name hname
    · rintro (_ | ⟨hsymbol, -⟩)
      · rfl
      · exact absurd hsymbol (hname _)

/-- The first pass fails on a slot of another type and on the first item that is no pair. -/
theorem attributePairs_eq_error_iff {slot : Value} {fault : Fault} :
    slot.attributePairs = .error fault ↔
      (slot ≠ .null ∧ (∀ entries, slot ≠ .mapping entries) ∧ slot.items? = none ∧
        fault = ⟨.attributeSlot, slot⟩) ∨
      ∃ before entry after, slot.items? = some (before ++ entry :: after) ∧
        (∀ other ∈ before, other.IsPair) ∧ ¬ entry.IsPair ∧ fault = ⟨.attributeEntry, entry⟩ := by
  cases slot with
  | null => simp [attributePairs, items?]
  | mapping entries => simp [attributePairs, items?]
  | sequence kind entries =>
    simp only [attributePairs, mapM_eq_error_iff, exists_readPair_iff, readPair_eq_error_iff,
      items?_sequence, Option.some.injEq]
    simp
  | _ => simp [attributePairs, items?, eq_comm]

/-- A slot is rejected in the first pass for its type or for an item that is no pair, and in the
second pass for the name or for the value of an entry. -/
theorem readAttributes_eq_error_iff {slot : Value} {fault : Fault} :
    slot.readAttributes = .error fault ↔ slot.SlotFault fault := by
  rw [readAttributes, bind_eq_error_iff, attributePairs_eq_error_iff]
  simp only [attributePairs_eq_ok_iff, mapM_eq_error_iff, exists_readAttribute_iff,
    readAttribute_eq_error_iff]
  constructor
  · rintro ((⟨hnull, hmapping, hitems, rfl⟩ | ⟨before, entry, after, hitems, hbefore, h, rfl⟩) |
      ⟨_, hpairs, before, pair, after, rfl, hbefore, h⟩)
    · exact .slot hnull hmapping hitems
    · exact .entry hitems hbefore h
    · exact .pair hpairs hbefore h
  · rintro (⟨hnull, hmapping, hitems⟩ | ⟨hitems, hbefore, h⟩ | ⟨hpairs, hbefore, h⟩)
    · exact .inl (.inl ⟨hnull, hmapping, hitems, rfl⟩)
    · exact .inl (.inr ⟨_, _, _, hitems, hbefore, h, rfl⟩)
    · exact .inr ⟨_, hpairs, _, _, _, rfl, hbefore, h⟩

/-! ## The reported part -/

/-- A slot has an entry with the given name and value. -/
def HasPair : (slot name value : Value) → Prop
  | .mapping entries, name, value => (name, value) ∈ entries
  | .sequence _ entries, name, value => ∃ kind, .sequence kind [name, value] ∈ entries
  | _, _, _ => False

/-- The parts of a slot that a fault can be about. -/
inductive AttributePart (slot : Value) : Value → Prop
  /-- The slot itself. -/
  | slot : AttributePart slot slot
  /-- One of the items of a slot that is a sequence. -/
  | entry {entries entry} (hslot : slot.items? = some entries) (h : entry ∈ entries) :
      AttributePart slot entry
  /-- The name of an entry. -/
  | name {name value} (h : slot.HasPair name value) : AttributePart slot name
  /-- The value of an entry. -/
  | value {name value} (h : slot.HasPair name value) : AttributePart slot value

/-- The pairs that a slot lists are its entries. -/
theorem ListsPairs.hasPair {slot name value : Value} {pairs : List (Value × Value)}
    (h : slot.ListsPairs pairs) (hmem : (name, value) ∈ pairs) : slot.HasPair name value := by
  cases h with
  | absent => simp at hmem
  | mapping entries => exact hmem
  | sequence kind h =>
    obtain ⟨entry, hentry, kind', rfl⟩ := exists_mem_of_forall₂_right h hmem
    exact ⟨kind', hentry⟩

/-- A fault in a slot is about the slot, one of its entries, or the name or the value of one. -/
theorem part_of_readAttributes_eq_error {slot : Value} {fault : Fault}
    (h : slot.readAttributes = .error fault) : slot.AttributePart fault.node := by
  cases readAttributes_eq_error_iff.mp h with
  | slot => exact .slot
  | entry hitems => exact .entry hitems (by simp)
  | @pair before pair after _ hpairs _ hpair =>
    have hmem : slot.HasPair pair.1 pair.2 := hpairs.hasPair (by simp)
    cases hpair with
    | name => exact .name hmem
    | value => exact .value hmem

end MarkupTree.Value

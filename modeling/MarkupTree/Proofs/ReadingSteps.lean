import MarkupTree.Proofs.AttributeSlots
import MarkupTree.Proofs.Slots

/-!
# What reading does at one level

Everything that reading can make of a value, one level deep. A value that is read as a node is one
of four forms (`read_eq_ok_iff`); a value that is rejected has the wrong shape itself, or an
attribute slot that is rejected, or a first child that is rejected (`read_eq_error_iff`). Proofs
about whole trees are inductions over slots with these two statements as the step.
-/

namespace MarkupTree.Value

/-! ## Children -/

theorem readChildren_eq_mapSlots (i : Nat) (children : List Value) :
    readChildren i children = mapSlots read i children := by
  induction children generalizing i with
  | nil => rw [readChildren_nil, mapSlots]
  | cons child children ih => rw [readChildren_cons, mapSlots, ih]

/-- Children are read one by one, and their slots do not matter to the nodes. -/
theorem readChildren_eq_ok_iff {i : Nat} {children : List Value} {nodes : List Node} :
    readChildren i children = .ok nodes ↔
      List.Forall₂ (fun child node => child.read = .ok node) children nodes := by
  rw [readChildren_eq_mapSlots, mapSlots_eq_ok_iff]

/-- The first child that is rejected is reported, under the index of its slot. -/
theorem readChildren_eq_error_iff {i : Nat} {children : List Value} {e : InvalidNode} :
    readChildren i children = .error e ↔
      ∃ before child after e₀, children = before ++ child :: after ∧
        (∀ c ∈ before, ∃ n, c.read = .ok n) ∧ child.read = .error e₀ ∧
        e = e₀.under ((i + before.length : Nat) : Int) := by
  rw [readChildren_eq_mapSlots, mapSlots_eq_error_iff]

/-! ## Payloads -/

/-- Only a text can be the payload of raw text. -/
theorem rawPayload?_eq_none {v : Value} (h : ∀ content, v ≠ .text content) :
    rawPayload? v = none := by
  unfold rawPayload?
  split
  · exact absurd rfl (h _)
  · rfl

/-- The payload of a comment is looked at in the same way, in its own slot. -/
theorem commentPayload?_eq_bind (rest : List Value) :
    commentPayload? rest = rest.head?.bind rawPayload? := by
  unfold commentPayload?
  split
  · rfl
  · next h =>
    cases rest with
    | nil => rfl
    | cons v vs => exact (rawPayload?_eq_none fun content heq => h content vs (by rw [heq])).symm

/-! ## Accepted values -/

/-- One level of a value that is read as a node. -/
inductive ReadsAs : Value → Node → Prop
  /-- A text. -/
  | text (content) : ReadsAs (.text content) (.text content)
  /-- Raw text; what follows the payload does not count. -/
  | raw (kind content rest) :
      ReadsAs (.sequence kind (.symbol .rawString :: .text content :: rest)) (.raw content)
  /-- A comment; neither the placeholder nor what follows the payload counts. -/
  | comment (kind placeholder content rest) :
      ReadsAs (.sequence kind (.symbol .comment :: placeholder :: .text content :: rest))
        (.comment content)
  /-- An element with its attributes and its children. -/
  | element (kind) {tag slot attributes children nodes} (htag : ¬ tag.IsMarker)
      (hslot : slot.HoldsAttributes attributes)
      (hchildren : List.Forall₂ (fun child node => child.read = .ok node) children nodes) :
      ReadsAs (.sequence kind (.symbol tag :: slot :: children))
        (.element tag.name (attributesByName attributes) nodes)

/-- The head of a sequence that is read as a node is a symbol. -/
theorem ReadsAs.exists_eq_symbol_cons {kind : SequenceKind} {items : List Value} {n : Node}
    (h : ReadsAs (.sequence kind items) n) : ∃ s rest, items = .symbol s :: rest := by
  cases h <;> exact ⟨_, _, rfl⟩

/-! ## Rejected values -/

/-- A value that is no node by its own shape. -/
inductive ShapeFault : Value → Reason → Prop
  /-- Neither a text nor a sequence. -/
  | notNode {v} (htext : ∀ content, v ≠ .text content) (hitems : v.items? = none) :
      ShapeFault v .notNode
  /-- A sequence without a second slot. -/
  | tooShort (kind) {items} (h : items.length < 2) : ShapeFault (.sequence kind items) .tooShort
  /-- Raw text whose payload is no text. -/
  | rawPayload (kind) {payload} (rest) (h : ∀ content, payload ≠ .text content) :
      ShapeFault (.sequence kind (.symbol .rawString :: payload :: rest)) .rawPayload
  /-- A comment without a third slot, or with a payload there that is no text. -/
  | commentPayload (kind placeholder) {rest} (h : ∀ content, rest.head? ≠ some (.text content)) :
      ShapeFault (.sequence kind (.symbol .comment :: placeholder :: rest)) .commentPayload
  /-- A head that is no symbol. -/
  | tagNotSymbol (kind) {head} (second rest) (h : ∀ s, head ≠ .symbol s) :
      ShapeFault (.sequence kind (head :: second :: rest)) .tagNotSymbol

/-- One level of a value that is rejected. -/
inductive RejectedWith : Value → InvalidNode → Prop
  /-- The value has the wrong shape. -/
  | shape {v reason} (h : ShapeFault v reason) : RejectedWith v (Fault.atPath ⟨reason, v⟩ [])
  /-- The attribute slot of an element is rejected. -/
  | attributes (kind) {tag slot fault} (children) (htag : ¬ tag.IsMarker)
      (h : slot.readAttributes = .error fault) :
      RejectedWith (.sequence kind (.symbol tag :: slot :: children)) (fault.atPath [1])
  /-- A child of an element is rejected, and nothing before it. -/
  | child (kind) {tag slot attributes before child e} (after) (htag : ¬ tag.IsMarker)
      (hslot : slot.HoldsAttributes attributes) (hbefore : ∀ c ∈ before, ∃ n, c.read = .ok n)
      (h : child.read = .error e) :
      RejectedWith (.sequence kind (.symbol tag :: slot :: (before ++ child :: after)))
        (e.under ((2 + before.length : Nat) : Int))

/-! ## The two descriptions and reading -/

theorem read_of_readsAs {v : Value} {n : Node} (h : ReadsAs v n) : v.read = .ok n := by
  cases h with
  | text content => exact read_text content
  | raw kind content rest => exact read_raw kind content rest
  | comment kind placeholder content rest => exact read_comment kind placeholder content rest
  | element kind htag hslot hchildren =>
    rw [read_element kind (asHead_symbol htag), readAttributes_eq_ok_iff.mpr hslot,
      readChildren_eq_ok_iff.mpr hchildren]
    rfl

theorem read_of_shapeFault {v : Value} {reason : Reason} (h : ShapeFault v reason) :
    v.read = .error (Fault.atPath ⟨reason, v⟩ []) := by
  cases h with
  | notNode htext hitems =>
    cases v with
    | text content => exact absurd rfl (htext content)
    | sequence kind items => cases hitems
    | _ => rw [read] <;> simp
  | tooShort kind h => exact read_of_length_lt_two kind h
  | rawPayload kind rest h =>
    rw [read, asHead_rawString]
    simp only [rawPayload?_eq_none h]
  | @commentPayload kind placeholder rest h =>
    have hpayload : commentPayload? rest = none := by
      rw [commentPayload?_eq_bind, Option.bind_eq_none_iff]
      rintro payload hhead
      exact rawPayload?_eq_none fun content heq => h content (by rw [hhead, heq])
    rw [read, asHead_comment]
    simp only [hpayload]
  | tagNotSymbol kind second rest h =>
    rw [read, asHead_eq_other_iff.mpr h]

theorem read_of_rejectedWith {v : Value} {e : InvalidNode} (h : RejectedWith v e) :
    v.read = .error e := by
  cases h with
  | shape h => exact read_of_shapeFault h
  | attributes kind children htag h =>
    rw [read_element kind (asHead_symbol htag), h]
    rfl
  | @child kind tag slot attributes before child e after htag hslot hbefore h =>
    -- The attributes are accepted, so the children are read, and they fail on the child.
    have hchildren : readChildren 2 (before ++ child :: after) =
        .error (e.under ((2 + before.length : Nat) : Int)) :=
      readChildren_eq_error_iff.mpr ⟨before, child, after, e, rfl, hbefore, h, rfl⟩
    rw [read_element kind (asHead_symbol htag), readAttributes_eq_ok_iff.mpr hslot, hchildren]
    rfl

/-- The two descriptions leave no value out. -/
theorem readsAs_or_rejectedWith (v : Value) :
    (∃ n, ReadsAs v n) ∨ ∃ e, RejectedWith v e := by
  match v with
  | .text content => exact .inl ⟨_, .text content⟩
  | .sequence kind [] => exact .inr ⟨_, .shape (.tooShort kind (by simp))⟩
  | .sequence kind [_] => exact .inr ⟨_, .shape (.tooShort kind (by simp))⟩
  | .sequence kind (head :: second :: rest) =>
    -- The head decides which slots are looked at, in the order in which reading does.
    cases hhead : head.asHead with
    | raw =>
      obtain rfl := asHead_eq_raw_iff.mp hhead
      by_cases hpayload : ∃ content, second = .text content
      · obtain ⟨content, rfl⟩ := hpayload
        exact .inl ⟨_, .raw kind content rest⟩
      · exact .inr ⟨_, .shape (.rawPayload kind rest (not_exists.mp hpayload))⟩
    | comment =>
      obtain rfl := asHead_eq_comment_iff.mp hhead
      by_cases hpayload : ∃ content, rest.head? = some (.text content)
      · obtain ⟨content, hcontent⟩ := hpayload
        obtain ⟨rest', rfl⟩ := List.head?_eq_some_iff.mp hcontent
        exact .inl ⟨_, .comment kind second content rest'⟩
      · exact .inr ⟨_, .shape (.commentPayload kind second (not_exists.mp hpayload))⟩
    | tag tag =>
      obtain ⟨rfl, htag⟩ := asHead_eq_tag_iff.mp hhead
      -- The children count only when the attributes are accepted.
      cases hslot : second.readAttributes with
      | error fault => exact .inr ⟨_, .attributes kind rest htag hslot⟩
      | ok attributes =>
        have hholds := readAttributes_eq_ok_iff.mp hslot
        cases hchildren : readChildren 2 rest with
        | ok nodes =>
          exact .inl ⟨_, .element kind htag hholds (readChildren_eq_ok_iff.mp hchildren)⟩
        | error e =>
          obtain ⟨before, child, after, e₀, rfl, hbefore, hchild, -⟩ :=
            readChildren_eq_error_iff.mp hchildren
          exact .inr ⟨_, .child kind after htag hholds hbefore hchild⟩
    | other =>
      exact .inr ⟨_, .shape (.tagNotSymbol kind second rest (asHead_eq_other_iff.mp hhead))⟩
  | .null | .bool _ | .int _ | .float _ | .mapping _ | .symbol _ | .node _ =>
    exact .inr ⟨_, .shape (.notNode (by simp) rfl)⟩

/-- A value is read as a node exactly when it has one of the four forms. -/
theorem read_eq_ok_iff {v : Value} {n : Node} : v.read = .ok n ↔ ReadsAs v n :=
  eq_ok_iff_of_total (fun _ => read_of_readsAs) (fun _ => read_of_rejectedWith)
    (readsAs_or_rejectedWith v)

/-! ### Accepted sequences, by head -/

section Head

variable {kind : SequenceKind} {rest : List Value} {n : Node}

theorem read_rawString_eq_ok_iff :
    (Value.sequence kind (.symbol .rawString :: rest)).read = .ok n ↔
      ∃ content others, rest = .text content :: others ∧ n = .raw content := by
  rw [read_eq_ok_iff]
  constructor
  · intro h
    generalize hhead : Symbol.rawString = head at h
    cases h with
    | raw _ content others => exact ⟨content, others, rfl, rfl⟩
    | comment => exact absurd hhead Symbol.rawString_ne_comment
    | element _ htag => exact absurd (hhead ▸ Symbol.isMarker_rawString) htag
  · rintro ⟨content, others, rfl, rfl⟩
    exact .raw kind content others

theorem read_comment_eq_ok_iff :
    (Value.sequence kind (.symbol .comment :: rest)).read = .ok n ↔
      ∃ placeholder content others,
        rest = placeholder :: .text content :: others ∧ n = .comment content := by
  rw [read_eq_ok_iff]
  constructor
  · intro h
    generalize hhead : Symbol.comment = head at h
    cases h with
    | raw => exact absurd hhead Symbol.comment_ne_rawString
    | comment _ placeholder content others => exact ⟨placeholder, content, others, rfl, rfl⟩
    | element _ htag => exact absurd (hhead ▸ Symbol.isMarker_comment) htag
  · rintro ⟨placeholder, content, others, rfl, rfl⟩
    exact .comment kind placeholder content others

theorem read_tag_eq_ok_iff {tag : Symbol} (htag : ¬ tag.IsMarker) :
    (Value.sequence kind (.symbol tag :: rest)).read = .ok n ↔
      ∃ slot children attributes nodes, rest = slot :: children ∧
        slot.HoldsAttributes attributes ∧
        List.Forall₂ (fun child node => child.read = .ok node) children nodes ∧
        n = .element tag.name (attributesByName attributes) nodes := by
  rw [read_eq_ok_iff]
  constructor
  · intro h
    cases h with
    | raw => exact absurd Symbol.isMarker_rawString htag
    | comment => exact absurd Symbol.isMarker_comment htag
    | element _ _ hslot hchildren => exact ⟨_, _, _, _, rfl, hslot, hchildren, rfl⟩
  · rintro ⟨slot, children, attributes, nodes, rfl, hslot, hchildren, rfl⟩
    exact .element kind htag hslot hchildren

end Head

/-- A value is rejected exactly for its shape, for its attribute slot or for its first child that is
rejected. -/
theorem read_eq_error_iff {v : Value} {e : InvalidNode} :
    v.read = .error e ↔ RejectedWith v e :=
  eq_error_iff_of_total (fun _ => read_of_readsAs) (fun _ => read_of_rejectedWith)
    (readsAs_or_rejectedWith v)

end MarkupTree.Value

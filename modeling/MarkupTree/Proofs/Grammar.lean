import MarkupTree.Proofs.Escaping
import MarkupTree.Proofs.NodeTree
import MarkupTree.Proofs.ReadingSteps
import MarkupTree.Proofs.Slots

/-!
# The grammar of values that can be written as markup

Writing a value as markup takes two passes: the value is read as a node, and the node is written.
`WellFormed` describes the accepted values without either pass, as the least set that is closed
under four rules, and `directMarkup` writes a value in a single pass over the value itself.
`toMarkup_eq_ok_iff` says that the two passes do just that.
-/

namespace MarkupTree.Value

/-! ## The grammar -/

/-- The attribute slots of well-formed elements. -/
inductive AttributeSlot : Value → Prop
  /-- No attributes. -/
  | absent : AttributeSlot .null
  /-- A mapping with symbols for its keys and texts for its values. -/
  | mapping {entries} (h : ∀ entry ∈ entries, ∃ name value, entry = (.symbol name, .text value)) :
      AttributeSlot (.mapping entries)
  /-- A sequence of pairs, each of a symbol and a text. -/
  | pairs {kind entries}
      (h : ∀ entry ∈ entries, ∃ kind name value,
        entry = .sequence kind [.symbol name, .text value]) :
      AttributeSlot (.sequence kind entries)

/-- The values that can be written as markup. -/
inductive WellFormed : Value → Prop
  /-- Every text. -/
  | text (content) : WellFormed (.text content)
  /-- Raw text with a text in slot 1; the other slots are arbitrary. -/
  | raw (kind content rest) :
      WellFormed (.sequence kind (.symbol .rawString :: .text content :: rest))
  /-- A comment with a text in slot 2; the other slots are arbitrary. -/
  | comment (kind placeholder content rest) :
      WellFormed (.sequence kind (.symbol .comment :: placeholder :: .text content :: rest))
  /-- Any other symbol with an attribute slot, and well-formed values in the slots from 2 on. -/
  | element (kind) {tag slot children} (htag : ¬ tag.IsMarker) (hslot : AttributeSlot slot)
      (hchildren : ∀ child ∈ children, WellFormed child) :
      WellFormed (.sequence kind (.symbol tag :: slot :: children))

/-! ## Writing in one pass -/

/-- A text with its characters replaced one by one. -/
def escapedText (s : String) : String := String.ofList (s.toList.flatMap Markup.escapeChar)

/-- An attribute, with the space before it. -/
def pairMarkup : (name value : Value) → String
  | .symbol name, .text value => " " ++ name.name ++ "=\"" ++ escapedText value ++ "\""
  | _, _ => ""

/-- The attribute that an entry of a sequence is. -/
def entryMarkup : Value → String
  | .sequence _ [name, value] => pairMarkup name value
  | _ => ""

/-- The attributes of a slot in order. -/
def slotMarkup : Value → String
  | .mapping entries => String.join (entries.map fun entry => pairMarkup entry.1 entry.2)
  | .sequence _ entries => String.join (entries.map entryMarkup)
  | _ => ""

/-- The characters of a text. -/
def contentOf : Value → String
  | .text content => content
  | _ => ""

mutual

/-- A value as markup, written in one pass; what is not well formed leaves no trace. -/
def directMarkup : Value → String
  | .text content => escapedText content
  | .sequence _ (.symbol head :: second :: rest) =>
    if head = .rawString then contentOf second
    else if head = .comment then "<!-- " ++ contentOf (rest.headD .null) ++ " -->"
    else if rest.isEmpty then "<" ++ head.name ++ slotMarkup second ++ "/>"
    else "<" ++ head.name ++ slotMarkup second ++ ">" ++ directMarkupAll rest ++
      "</" ++ head.name ++ ">"
  | _ => ""

/-- Values as markup, one after the other. -/
def directMarkupAll : List Value → String
  | [] => ""
  | v :: vs => directMarkup v ++ directMarkupAll vs

end

/-! ## Acceptance -/

theorem exists_holdsAttributes_iff {slot : Value} :
    (∃ attributes, slot.HoldsAttributes attributes) ↔ AttributeSlot slot := by
  constructor
  · rintro ⟨attributes, _ | h | h⟩
    · exact .absent
    · refine .mapping fun entry hentry => ?_
      obtain ⟨a, rfl⟩ := exists_forall₂_iff.mp ⟨attributes, h⟩ entry hentry
      exact ⟨a.1, a.2, rfl⟩
    · refine .pairs fun entry hentry => ?_
      obtain ⟨a, kind, rfl⟩ := exists_forall₂_iff.mp ⟨attributes, h⟩ entry hentry
      exact ⟨kind, a.1, a.2, rfl⟩
  · intro h
    cases h with
    | absent => exact ⟨[], .absent⟩
    | @mapping entries h =>
      have hentries : ∀ entry ∈ entries, ∃ a : Symbol × String,
          entry = (.symbol a.1, .text a.2) := by
        intro entry hentry
        obtain ⟨name, value, rfl⟩ := h entry hentry
        exact ⟨(name, value), rfl⟩
      obtain ⟨attributes, hattributes⟩ := exists_forall₂_iff.mpr hentries
      exact ⟨attributes, .mapping hattributes⟩
    | @pairs kind entries h =>
      have hentries : ∀ entry ∈ entries, ∃ a, IsPairOf entry a := by
        intro entry hentry
        obtain ⟨kind, name, value, rfl⟩ := h entry hentry
        exact ⟨(name, value), kind, rfl⟩
      obtain ⟨attributes, hattributes⟩ := exists_forall₂_iff.mpr hentries
      exact ⟨attributes, .pairs hattributes⟩

/-- The values that are read as a node are the well-formed ones. -/
theorem exists_read_eq_ok_iff {v : Value} : (∃ n, v.read = .ok n) ↔ WellFormed v := by
  simp only [read_eq_ok_iff]
  constructor
  · rintro ⟨n, h⟩
    -- By induction on the slots: a child is a slot of the sequence, whatever its node is.
    induction v using slotInduction generalizing n with
    | sequence kind items ih =>
      cases h with
      | raw _ content rest => exact .raw kind content rest
      | comment _ placeholder content rest => exact .comment kind placeholder content rest
      | element _ htag hslot hchildren =>
        refine .element kind htag (exists_holdsAttributes_iff.mp ⟨_, hslot⟩) fun child hchild => ?_
        obtain ⟨node, hnode⟩ := exists_forall₂_iff.mp ⟨_, hchildren⟩ child hchild
        exact ih child (by simp [hchild]) node (read_eq_ok_iff.mp hnode)
    | atom v hv =>
      cases h with
      | text content => exact .text content
      | _ => cases hv
  · intro h
    -- By induction on the rules: the children of an element have nodes, and these make up its own.
    induction h with
    | text content => exact ⟨_, .text content⟩
    | raw kind content rest => exact ⟨_, .raw kind content rest⟩
    | comment kind placeholder content rest => exact ⟨_, .comment kind placeholder content rest⟩
    | element kind htag hslot _ ih =>
      obtain ⟨attributes, hattributes⟩ := exists_holdsAttributes_iff.mpr hslot
      simp only [← read_eq_ok_iff] at ih
      obtain ⟨nodes, hnodes⟩ := exists_forall₂_iff.mpr ih
      exact ⟨_, .element kind htag hattributes hnodes⟩

/-! ## What is written -/

theorem escapedText_eq_escape (s : String) : escapedText s = Markup.escape s := by
  rw [escapedText, Markup.escape, Markup.escapeChars_eq_flatMap]

/-- The attributes of a slot are written as those of the node. -/
theorem attributesText_of_holdsAttributes {slot : Value} {attributes : List (Symbol × String)}
    (h : slot.HoldsAttributes attributes) :
    Markup.attributesText (attributesByName attributes) = slotMarkup slot := by
  have hpair : ∀ a : Symbol × String,
      Markup.attributeText a.1.name a.2 = pairMarkup (.symbol a.1) (.text a.2) := by
    intro a
    rw [Markup.attributeText, pairMarkup, escapedText_eq_escape]
  cases h with
  | absent => rfl
  | mapping h =>
    induction h with
    | nil => rfl
    | cons hentry _ ih =>
      subst hentry
      rw [slotMarkup] at ih ⊢
      rw [List.map_cons, String.join_cons, ← ih, ← hpair]
      rfl
  | pairs h =>
    induction h with
    | nil => rfl
    | cons hentry _ ih =>
      obtain ⟨kind, rfl⟩ := hentry
      rw [slotMarkup] at ih ⊢
      rw [List.map_cons, String.join_cons, ← ih, entryMarkup, ← hpair]
      rfl

theorem directMarkupAll_eq_join (vs : List Value) :
    directMarkupAll vs = String.join (vs.map directMarkup) := by
  induction vs with
  | nil => rw [directMarkupAll]; rfl
  | cons v vs ih => rw [directMarkupAll, List.map_cons, String.join_cons, ih]

/-- The markup of the node that a value is read as is the one of the single pass. -/
theorem markup_eq_directMarkup {v : Value} {n : Node} (h : v.read = .ok n) :
    n.markup = v.directMarkup := by
  induction v using slotInduction generalizing n with
  | sequence kind items ih =>
    cases read_eq_ok_iff.mp h with
    | raw _ content rest => rw [Node.markup, directMarkup, if_pos rfl, contentOf]
    | comment _ placeholder content rest =>
      rw [Node.markup, directMarkup, if_neg Symbol.comment_ne_rawString, if_pos rfl]
      rfl
    | @element _ tag slot attributes children nodes htag hslot hchildren =>
      -- The induction hypothesis covers every slot, so it covers the children.
      have hall := Node.markupAll_of_forall₂ hchildren fun child hchild node hnode =>
        ih child (by simp [hchild]) hnode
      rw [← directMarkupAll_eq_join] at hall
      obtain ⟨hraw, hcomment⟩ := not_or.mp htag
      rw [directMarkup, if_neg hraw, if_neg hcomment, ← attributesText_of_holdsAttributes hslot,
        ← hall]
      -- The node has children exactly when the value has slots from 2 on.
      cases hchildren with
      | nil => rw [Node.markup, List.isEmpty_nil, if_pos rfl]
      | cons hnode hnodes =>
        rw [Node.markup_element_of_ne_nil _ _ (List.cons_ne_nil _ _), List.isEmpty_cons,
          if_neg Bool.false_ne_true]
  | atom v hv =>
    cases read_eq_ok_iff.mp h with
    | text content => rw [Node.markup, directMarkup, escapedText_eq_escape]
    | _ => cases hv

/-- A value can be written as markup exactly when it is well formed, and what is written is the
markup of the single pass. -/
theorem toMarkup_eq_ok_iff (v : Value) (s : String) :
    v.toMarkup = .ok s ↔ v.WellFormed ∧ s = v.directMarkup := by
  rw [toMarkup, map_eq_ok_iff, ← exists_read_eq_ok_iff]
  constructor
  · rintro ⟨n, hn, rfl⟩
    exact ⟨⟨n, hn⟩, markup_eq_directMarkup hn⟩
  · rintro ⟨⟨n, hn⟩, rfl⟩
    exact ⟨n, hn, markup_eq_directMarkup hn⟩

end MarkupTree.Value

import MarkupTree.Proofs.Grammar
import MarkupTree.Proofs.JsonTree

/-!
# The grammar of documents that can be written as markup

A document of the standard notation becomes markup in three passes: its names are turned into
symbols, the value is read as a node, and the node is written. The first pass lets anything through
that does not have the expected shape and leaves it to the second one. `SpellsNode` describes the
documents that get through both, as a set of documents alone, and `directMarkup` writes a document
in a single pass. `symbolize_toValue_and_toMarkup_eq_ok_iff` says that the passes do just that, and
that whatever is not in the set is reported as an invalid node.
-/

namespace MarkupTree.Json

/-! ## The grammar -/

/-- The attribute slots of elements. -/
inductive AttributeSlot : Json → Prop
  /-- No attributes. -/
  | absent : AttributeSlot .null
  /-- An array without items; any other array is rejected. -/
  | empty : AttributeSlot (.array [])
  /-- An object whose names are not empty and whose values are texts. -/
  | object {members} (h : ∀ member ∈ members, member.1 ≠ "" ∧ ∃ value, member.2 = .text value) :
      AttributeSlot (.object members)

/-- The documents that can be written as markup. -/
inductive SpellsNode : Json → Prop
  /-- Every text. -/
  | text (content) : SpellsNode (.text content)
  /-- Raw text with a text in slot 1; the other slots are arbitrary. -/
  | raw (content rest) : SpellsNode (.array (.text "raw-string" :: .text content :: rest))
  /-- A comment with a text in slot 2; the other slots are arbitrary. -/
  | comment (placeholder content rest) :
      SpellsNode (.array (.text "comment" :: placeholder :: .text content :: rest))
  /-- Any other name with an attribute slot, and such documents in the slots from 2 on. -/
  | element {tag slot children} (hempty : tag ≠ "") (hraw : tag ≠ "raw-string")
      (hcomment : tag ≠ "comment") (hslot : AttributeSlot slot)
      (hchildren : ∀ child ∈ children, SpellsNode child) :
      SpellsNode (.array (.text tag :: slot :: children))

/-! ## Writing in one pass -/

/-- A member of an object as an attribute, with the space before it. -/
def memberMarkup : String × Json → String
  | (name, .text value) => " " ++ name ++ "=\"" ++ Value.escapedText value ++ "\""
  | _ => ""

/-- The attributes of a slot in order. -/
def slotMarkup : Json → String
  | .object members => String.join (members.map memberMarkup)
  | _ => ""

/-- The characters of a text. -/
def contentOf : Json → String
  | .text content => content
  | _ => ""

mutual

/-- A document as markup, written in one pass; what spells no node leaves no trace. -/
def directMarkup : Json → String
  | .text content => Value.escapedText content
  | .array (.text head :: second :: rest) =>
    if head = "raw-string" then contentOf second
    else if head = "comment" then "<!-- " ++ contentOf (rest.headD .null) ++ " -->"
    else if rest.isEmpty then "<" ++ head ++ slotMarkup second ++ "/>"
    else "<" ++ head ++ slotMarkup second ++ ">" ++ directMarkupAll rest ++ "</" ++ head ++ ">"
  | _ => ""

/-- Documents as markup, one after the other. -/
def directMarkupAll : List Json → String
  | [] => ""
  | d :: ds => directMarkup d ++ directMarkupAll ds

end

theorem directMarkupAll_eq_join (ds : List Json) :
    directMarkupAll ds = String.join (ds.map directMarkup) := by
  induction ds with
  | nil => rw [directMarkupAll]; rfl
  | cons d ds ih => rw [directMarkupAll, List.map_cons, String.join_cons, ih]

/-! ## Acceptance -/

/-- The members of an object whose values are texts are those of its attributes. -/
theorem attributeMembers_map_contentOf {members : List (String × Json)}
    (h : ∀ member ∈ members, ∃ value, member.2 = .text value) :
    Node.attributeMembers (members.map fun member => (member.1, contentOf member.2)) = members := by
  rw [Node.attributeMembers, List.map_map]
  conv_rhs => rw [← List.map_id members]
  refine List.map_congr_left fun member hmember => ?_
  obtain ⟨value, hvalue⟩ := h member hmember
  exact Prod.ext rfl (by simp [hvalue, contentOf])

theorem exists_spellsAttributes_iff {d : Json} :
    (∃ attributes, SpellsAttributes d attributes) ↔ AttributeSlot d := by
  constructor
  · rintro ⟨_, _ | _ | @⟨attributes, h⟩⟩
    · exact .absent
    · exact .empty
    · refine .object fun member hmember => ?_
      obtain ⟨a, ha, rfl⟩ := List.mem_map.mp hmember
      exact ⟨h a ha, a.2, rfl⟩
  · intro h
    cases h with
    | absent => exact ⟨[], .absent⟩
    | empty => exact ⟨[], .empty⟩
    | @object members h =>
      rw [← attributeMembers_map_contentOf fun member hmember => (h member hmember).2]
      refine ⟨_, .object fun a ha => ?_⟩
      obtain ⟨member, hmember, rfl⟩ := List.mem_map.mp ha
      exact (h member hmember).1

/-- The documents whose tree is read as a node are those of the grammar. -/
theorem exists_read_tree_iff {d : Json} : (∃ n, d.tree.read = .ok n) ↔ SpellsNode d := by
  simp only [read_tree_eq_ok_iff]
  constructor
  · rintro ⟨n, h⟩
    induction d using itemInduction generalizing n with
    | array items ih =>
      cases h with
      | raw content rest => exact .raw content rest
      | comment placeholder content rest => exact .comment placeholder content rest
      | @element tag _ _ _ _ htag hslot hchildren =>
        obtain ⟨hraw, hcomment⟩ := not_or.mp (mt Symbol.isMarker_iff_name.mpr htag)
        refine .element tag.name_ne_empty hraw hcomment (exists_spellsAttributes_iff.mp ⟨_, hslot⟩)
          fun child hchild => ?_
        obtain ⟨node, hnode⟩ := exists_forall₂_iff.mp ⟨_, hchildren⟩ child hchild
        exact ih child (by simp [hchild]) node (read_tree_eq_ok_iff.mp hnode)
    | atom d hd =>
      cases h with
      | text content => exact .text content
      | _ => cases hd
  · intro h
    induction h with
    | text content => exact ⟨_, .text content⟩
    | raw content rest => exact ⟨_, .raw content rest⟩
    | comment placeholder content rest => exact ⟨_, .comment placeholder content rest⟩
    | element hempty hraw hcomment hslot _ ih =>
      obtain ⟨tag, htag, rfl⟩ := Node.exists_symbol_name_eq hempty hraw hcomment
      obtain ⟨attributes, hattributes⟩ := exists_spellsAttributes_iff.mpr hslot
      simp only [← read_tree_eq_ok_iff] at ih
      obtain ⟨nodes, hnodes⟩ := exists_forall₂_iff.mpr ih
      exact ⟨_, .element htag hattributes hnodes⟩

/-! ## What is written -/

/-- The attributes of a slot are written as those of the node. -/
theorem attributesText_of_spellsAttributes {d : Json} {attributes : List (String × String)}
    (h : SpellsAttributes d attributes) : Markup.attributesText attributes = slotMarkup d := by
  cases h with
  | absent => rfl
  | empty => rfl
  | object hnames =>
    -- Even an empty name would be written, so the induction does not need the names.
    clear hnames
    rw [slotMarkup, Node.attributeMembers, List.map_map]
    induction attributes with
    | nil => rfl
    | cons a attributes ih =>
      rw [Markup.attributesText, List.map_cons, String.join_cons, ih, Markup.attributeText,
        ← Value.escapedText_eq_escape]
      rfl

/-- The markup of the node that the tree of a document is read as is the one of the single pass. -/
theorem markup_eq_directMarkup {d : Json} {n : Node} (h : d.tree.read = .ok n) :
    n.markup = d.directMarkup := by
  induction d using itemInduction generalizing n with
  | array items ih =>
    cases read_tree_eq_ok_iff.mp h with
    | raw content rest => rw [Node.markup, directMarkup, if_pos rfl, contentOf]
    | comment placeholder content rest =>
      rw [Node.markup, directMarkup, if_neg (by decide), if_pos rfl]
      rfl
    | @element tag slot attributes children nodes htag hslot hchildren =>
      have hall := Node.markupAll_of_forall₂ hchildren fun child hchild node hnode =>
        ih child (by simp [hchild]) hnode
      rw [← directMarkupAll_eq_join] at hall
      obtain ⟨hraw, hcomment⟩ := not_or.mp (mt Symbol.isMarker_iff_name.mpr htag)
      rw [directMarkup, if_neg hraw, if_neg hcomment, ← attributesText_of_spellsAttributes hslot,
        ← hall]
      -- The node has children exactly when the document has slots from 2 on.
      cases hchildren with
      | nil => rw [Node.markup, List.isEmpty_nil, if_pos rfl]
      | cons hnode hnodes =>
        rw [Node.markup_element_of_ne_nil _ _ (List.cons_ne_nil _ _), List.isEmpty_cons,
          if_neg Bool.false_ne_true]
  | atom d hd =>
    cases read_tree_eq_ok_iff.mp h with
    | text content => rw [Node.markup, directMarkup, Value.escapedText_eq_escape]
    | _ => cases hd

/-- Every document has a tree. The tree can be written as markup exactly when the document is one of
the grammar, and what is written is the markup of the single pass; the tree of any other document is
reported as an invalid node. -/
theorem symbolize_toValue_and_toMarkup_eq_ok_iff (d : Json) :
    ∃ v, d.toValue.symbolize = .ok v ∧
      (∀ s, v.toMarkup = .ok s ↔ SpellsNode d ∧ s = d.directMarkup) ∧
      ((∃ e, v.toMarkup = .error e) ↔ ¬ SpellsNode d) := by
  have hmarkup (s : String) :
      d.tree.toMarkup = .ok s ↔ SpellsNode d ∧ s = d.directMarkup := by
    rw [Value.toMarkup, map_eq_ok_iff, ← exists_read_tree_iff]
    constructor
    · rintro ⟨n, hn, rfl⟩
      exact ⟨⟨n, hn⟩, markup_eq_directMarkup hn⟩
    · rintro ⟨⟨n, hn⟩, rfl⟩
      exact ⟨n, hn, markup_eq_directMarkup hn⟩
  refine ⟨d.tree, symbolize_toValue d, hmarkup, ?_⟩
  constructor
  · rintro ⟨e, he⟩ hd
    have hok := (hmarkup d.directMarkup).mpr ⟨hd, rfl⟩
    rw [he] at hok
    cases hok
  · intro hd
    cases h : d.tree.toMarkup with
    | error e => exact ⟨e, rfl⟩
    | ok s => exact absurd ((hmarkup s).mp h).1 hd

example :
    directMarkup (.array [.text "p", .object [("id", .text "x"), ("title", .text "<")], .text "a&b",
      .array [.text "br", .array []], .array [.text "comment", .null, .text "c", .int 1],
      .array [.text "raw-string", .text "<hr>"]]) =
    "<p id=\"x\" title=\"&lt;\">a&amp;b<br/><!-- c --><hr></p>" := by decide

end MarkupTree.Json

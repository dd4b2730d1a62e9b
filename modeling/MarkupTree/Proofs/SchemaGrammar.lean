import MarkupTree.Proofs.CheckerLaws
import MarkupTree.Proofs.DeclaredNodes
import MarkupTree.Proofs.NodeRecords
import MarkupTree.Schema

/-!
# The documents of nodes

What the schema accepts, said of a document alone: an object whose `kind` names the node, with the
fields of that kind and no others (`Describes`). The relation also says which node it is, with all
that the document lists in order. `check_node_iff_and_check_dump` states that a library that does
what is documented accepts these documents and makes the records of just these nodes, and that a
node comes back from what it is dumped as.
-/

namespace MarkupTree.Schema

/-! ## The grammar -/

/-- An object with a kind and a text, and nothing else. -/
structure HasText (kind : NodeKind) (members : List (String × Datum)) (content : String) :
    Prop where
  /-- Which node it is. -/
  kind : Json.member? "kind" members = some (.text kind.name)
  /-- What is in it. -/
  text : Json.member? "text" members = some (.text content)
  /-- There are no other fields. -/
  onlyFields : OnlyFields ["kind", "text"] members

/-- A document describes a node. -/
inductive Describes : Datum → Node → Prop
  /-- Text. -/
  | text {members content} (h : HasText .text members content) :
      Describes (.mapping members) (.text content)
  /-- Raw text. -/
  | raw {members content} (h : HasText .raw members content) :
      Describes (.mapping members) (.raw content)
  /-- A comment. -/
  | comment {members content} (h : HasText .comment members content) :
      Describes (.mapping members) (.comment content)
  /-- An element: a tag that is not empty, pairs of strings and documents of nodes, in order. -/
  | element {members tag listed attributes items children}
      (hkind : Json.member? "kind" members = some (.text "element"))
      (htag : Json.member? "tag" members = some (.text tag)) (hempty : tag ≠ "")
      (hlisted : Lists "attributes" members listed)
      (hattributes : List.Forall₂ IsAttribute listed attributes)
      (hitems : Lists "children" members items)
      (hchildren : List.Forall₂ Describes items children)
      (hfields : OnlyFields ["kind", "tag", "attributes", "children"] members) :
      Describes (.mapping members) (.element tag attributes children)

/-- Every tag of a node that is described is the tag of its document, which is not empty. -/
theorem hasTag_of_describes {d : Datum} {n : Node} (h : Describes d n) :
    n.Everywhere Node.HasTag := by
  induction n using Node.treeInduction generalizing d with
  | element tag attributes children ih =>
    cases h with
    | element _ _ hempty _ _ _ hchildren _ =>
      refine Node.everywhere_element_iff.mpr ⟨hempty, fun child hchild => ?_⟩
      obtain ⟨item, -, hitem⟩ := exists_mem_of_forall₂_right hchildren hchild
      exact ih child hchild hitem
  | _ => trivial

/-- What the record of a node is dumped as describes the node, if no tag is empty. -/
theorem describes_documentOf {n : Node} (h : n.Everywhere Node.HasTag) :
    Describes (documentOf n) n := by
  induction n using Node.treeInduction with
  | element tag attributes children ih =>
    obtain ⟨htag, hchildren⟩ := Node.everywhere_element_iff.mp h
    rw [documentOf, documentsOf_eq_map]
    refine .element rfl rfl htag (.inl ⟨_, rfl, rfl⟩) ?_ (.inl ⟨_, rfl, rfl⟩) ?_
      (by simp [OnlyFields])
    · rw [List.forall₂_map_left_iff, List.forall₂_same]
      exact fun _ _ => rfl
    · rw [List.forall₂_map_left_iff, List.forall₂_same]
      exact fun child hchild => ih child hchild (hchildren child hchild)
  | text => exact .text ⟨rfl, rfl, by simp [OnlyFields]⟩
  | raw => exact .raw ⟨rfl, rfl, by simp [OnlyFields]⟩
  | comment => exact .comment ⟨rfl, rfl, by simp [OnlyFields]⟩

/-! ## Data without records -/

mutual

/-- There are no records in a document. -/
theorem plain_toDatum : ∀ d : Json, d.toDatum.Plain
  | .null => .null
  | .bool b => .bool b
  | .int i => .int i
  | .float x => .float x
  | .text s => .text s
  | .array items => .list (plain_toData items)
  | .object members => .mapping (plain_membersToData members)

/-- There are no records in the items of an array. -/
theorem plain_toData : ∀ items : List Json, ∀ d ∈ Json.toData items, d.Plain
  | [], _, h => absurd h List.not_mem_nil
  | item :: items, d, h =>
    (List.mem_cons.mp h).elim (fun heq => heq ▸ plain_toDatum item) (plain_toData items d)

/-- There are no records in the members of an object. -/
theorem plain_membersToData :
    ∀ members : List (String × Json), ∀ member ∈ Json.membersToData members, member.2.Plain
  | [], _, h => absurd h List.not_mem_nil
  | (_, value) :: members, member, h =>
    (List.mem_cons.mp h).elim (fun heq => heq ▸ plain_toDatum value)
      (plain_membersToData members member)

end

/-- There are no records in what a record is dumped as. -/
theorem plain_documentOf (n : Node) : (documentOf n).Plain := by
  induction n using Node.treeInduction with
  | element tag attributes children ih =>
    rw [documentOf, documentsOf_eq_map, elementDocument]
    have hattributes : (Datum.list (attributes.map attributeDatum)).Plain := by
      refine .list (List.forall_mem_map.mpr fun attr _ => .tuple ?_)
      simp [Datum.Plain.text]
    have hchildren : (Datum.list (children.map documentOf)).Plain :=
      .list (List.forall_mem_map.mpr ih)
    exact .mapping (by simp [Datum.Plain.text, hattributes, hchildren])
  | _ => exact .mapping (by simp [Datum.Plain.text])

namespace Datum.Plain

variable {d : Datum}

/-- Data without records is no record. -/
theorem isRecord_eq_false (h : d.Plain) : d.isRecord = false := by
  cases h <;> rfl

/-- There are no records among the items of data without records. -/
theorem of_items? (h : d.Plain) {items : List Datum} (hitems : d.items? = some items) :
    ∀ item ∈ items, item.Plain := by
  cases h with
  | list h | tuple h =>
    cases hitems
    exact h
  | _ => cases hitems

/-- There are no records among the members of data without records. -/
theorem of_member? {members : List (String × Datum)} (h : (Datum.mapping members).Plain)
    {name : String} (hd : Json.member? name members = some d) : d.Plain := by
  cases h with
  | mapping h =>
    obtain ⟨member, hmem, rfl⟩ := Json.exists_mem_of_member? hd
    exact h member hmem

/-- The attributes among the members of data without records are no records, nor are their items. -/
theorem isRecord_member? {members : List (String × Datum)} (h : (Datum.mapping members).Plain)
    (name : String) : ∀ d, Json.member? name members = some d → d.isRecord = false ∧
      ∀ items, d.items? = some items → ∀ item ∈ items, item.isRecord = false := by
  intro d hd
  have hplain := h.of_member? hd
  refine ⟨hplain.isRecord_eq_false, fun items hitems item hitem => ?_⟩
  exact (hplain.of_items? hitems item hitem).isRecord_eq_false

end Datum.Plain

/-! ## What is accepted describes a node -/

section Accepted

variable {lib : Library} {scope : Datum → Prop} (h : lib.DocumentedOn scope)

/-- What the library accepts is a node, and the data describes it. -/
def Sound (lib : Library) (scope : Datum → Prop) (d : Datum) : Prop :=
  scope d → ∀ result, lib.check nodes .union d = .ok result →
    ∃ n, result = .ofNode n ∧ Describes d n

/-- Items that are accepted as nodes describe these nodes, one by one. -/
theorem exists_describes_of_sound {items results : List Datum}
    (hsound : ∀ item ∈ items, scope item ∧ Sound lib scope item)
    (hchecked : List.Forall₂ (fun d r => lib.check nodes .union d = .ok r) items results) :
    ∃ ns : List Node, results = ns.map Datum.ofNode ∧ List.Forall₂ Describes items ns := by
  induction hchecked with
  | nil => exact ⟨[], rfl, .nil⟩
  | cons hfirst _ ih =>
    obtain ⟨⟨hscope, hitem⟩, hsound⟩ := List.forall_mem_cons.mp hsound
    obtain ⟨n, rfl, hn⟩ := hitem hscope _ hfirst
    obtain ⟨ns, rfl, hns⟩ := ih hsound
    exact ⟨n :: ns, rfl, .cons hn hns⟩

include h

/-- A mapping is accepted only as the node that it describes, if so are the items of its members. -/
theorem sound_mapping {members : List (String × Datum)} (hplain : (Datum.mapping members).Plain)
    (hitems : ∀ member ∈ members, ∀ items, member.2.items? = some items →
      ∀ item ∈ items, Sound lib scope item) : Sound lib scope (.mapping members) := by
  intro hscope result hcheck
  obtain ⟨_, tag, cls, ⟨⟩, htag, hcls⟩ := h.union_ok hscope rfl hcheck
  obtain ⟨kind, rfl, rfl⟩ := member?_nodes_eq_some_iff.mp hcls
  rw [h.union_mapping hscope htag hcls, Checked.under_eq_ok_iff] at hcheck
  cases kind with
  | text =>
    obtain ⟨-, hnames, content, htext, rfl⟩ := (textOutcome_eq_ok_iff h hscope rfl).mp hcheck
    exact ⟨.text content, rfl, .text ⟨htag, htext, hnames⟩⟩
  | raw =>
    obtain ⟨-, hnames, content, htext, rfl⟩ := (textOutcome_eq_ok_iff h hscope rfl).mp hcheck
    exact ⟨.raw content, rfl, .raw ⟨htag, htext, hnames⟩⟩
  | comment =>
    obtain ⟨-, hnames, content, htext, rfl⟩ := (textOutcome_eq_ok_iff h hscope rfl).mp hcheck
    exact ⟨.comment content, rfl, .comment ⟨htag, htext, hnames⟩⟩
  | element =>
    rw [elementOutcome_eq_ok_iff h hscope (hplain.isRecord_member? _)
      fun d hd => (hplain.isRecord_member? _ d hd).1] at hcheck
    obtain ⟨-, hnames, tag, listed, attributes, items, children, htag', hempty, hlisted,
      hattributes, hchildren, hchecked, rfl⟩ := hcheck
    -- The children are listed in a member, or there are none of them.
    have hsound : ∀ item ∈ items, scope item ∧ Sound lib scope item := by
      refine fun item hitem => ⟨h.scope_of_lists hscope hchildren item hitem, ?_⟩
      rcases hchildren with ⟨d, hd, hd'⟩ | ⟨-, rfl⟩
      · obtain ⟨member, hmem, rfl⟩ := Json.exists_mem_of_member? hd
        exact hitems member hmem items hd' item hitem
      · cases hitem
    obtain ⟨ns, rfl, hns⟩ := exists_describes_of_sound hsound hchecked
    refine ⟨.element tag attributes ns, ?_,
      .element htag htag' hempty hlisted hattributes hchildren hns hnames⟩
    rw [Datum.ofNode, Datum.ofNodes_eq_map]

/-- Whatever data is accepted as a node, without records to begin with, describes the node. -/
theorem sound_of_plain {d : Datum} (hplain : d.Plain) : Sound lib scope d := by
  -- An element lists its children in the value of a member, two steps down; so the items of a list
  -- are carried along.
  suffices hall : Sound lib scope d ∧
      ∀ items, d.items? = some items → ∀ item ∈ items, Sound lib scope item from hall.1
  have hother {d : Datum} (hrecord : d.isRecord = false) (hne : ∀ members, d ≠ .mapping members) :
      Sound lib scope d := by
    intro hscope result hcheck
    obtain ⟨members, _, _, hmembers, -⟩ := h.union_ok hscope hrecord hcheck
    exact absurd hmembers (hne members)
  induction hplain with
  | mapping hmembers ih =>
    exact ⟨sound_mapping h (.mapping hmembers) fun member hmem => (ih member hmem).2, nofun⟩
  | list _ ih | tuple _ ih =>
    refine ⟨hother rfl nofun, ?_⟩
    rintro _ ⟨⟩ item hitem
    exact (ih item hitem).1
  | _ => exact ⟨hother rfl nofun, nofun⟩

/-! ## What describes a node is accepted -/

/-- A mapping with a kind is checked against the class of that kind. -/
theorem check_mapping {members : List (String × Datum)} (kind : NodeKind)
    (hscope : scope (.mapping members))
    (hkind : Json.member? "kind" members = some (.text kind.name)) {result : Datum} :
    lib.check nodes .union (.mapping members) = .ok result ↔
      kind.declaration.outcome (lib.checks nodes members) = .ok result := by
  rw [h.union_mapping hscope hkind (member?_nodes_name kind), Checked.under_eq_ok_iff]

/-- A mapping with a kind and a text is accepted. -/
theorem check_of_hasText {members : List (String × Datum)} {kind : NodeKind} {content : String}
    (hscope : scope (.mapping members)) (hcontents : kind.contents = [⟨"text", .string 0, none⟩])
    (htext : HasText kind members content) :
    lib.check nodes .union (.mapping members) = .ok (textRecord kind content) := by
  rw [check_mapping h kind hscope htext.kind, textOutcome_eq_ok_iff h hscope hcontents]
  exact ⟨.inr htext.kind, htext.onlyFields, content, htext.text, rfl⟩

/-- Data that describes a node is accepted as that node. -/
theorem check_of_describes {d : Datum} {n : Node} (hdescribes : Describes d n) (hplain : d.Plain)
    (hscope : scope d) : lib.check nodes .union d = .ok (.ofNode n) := by
  -- The items that are listed describe the children, one by one, wherever they are listed.
  induction n using Node.treeInduction generalizing d with
  | element tag attributes children ih =>
    cases hdescribes with
    | @element members _ listed _ items _ hkind htag hempty hlisted hattributes hitems hchildren
        hfields =>
      have hscoped := h.scope_of_lists hscope hitems
      have hplains : ∀ item ∈ items, item.Plain := by
        rcases hitems with ⟨d, hd, hd'⟩ | ⟨-, rfl⟩
        · exact (hplain.of_member? hd).of_items? hd'
        · simp
      have hchecked : List.Forall₂ (fun d r => lib.check nodes .union d = .ok r) items
          (children.map Datum.ofNode) := by
        rw [List.forall₂_map_right_iff]
        refine forall₂_imp_of_mem hchildren fun item hitem child hchild hdescribes => ?_
        exact ih child hchild hdescribes (hplains item hitem) (hscoped item hitem)
      refine (check_mapping h .element hscope hkind).mpr ?_
      rw [elementOutcome_eq_ok_iff h hscope (hplain.isRecord_member? _)
        fun d hd => (hplain.isRecord_member? _ d hd).1]
      refine ⟨.inr hkind, hfields, tag, listed, attributes, items, _, htag, hempty, hlisted,
        hattributes, hitems, hchecked, ?_⟩
      rw [Datum.ofNode, Datum.ofNodes_eq_map]
  | text content =>
    cases hdescribes with
    | text htext => exact check_of_hasText h hscope rfl htext
  | raw content =>
    cases hdescribes with
    | raw htext => exact check_of_hasText h hscope rfl htext
  | comment content =>
    cases hdescribes with
    | comment htext => exact check_of_hasText h hscope rfl htext

/-- Data without records is accepted as the node that it describes. -/
theorem check_eq_ok_iff_describes {d : Datum} (hplain : d.Plain) (hscope : scope d)
    {result : Datum} :
    lib.check nodes .union d = .ok result ↔ ∃ n, result = .ofNode n ∧ Describes d n := by
  constructor
  · exact sound_of_plain h hplain hscope result
  · rintro ⟨n, rfl, hdescribes⟩
    exact check_of_describes h hdescribes hplain hscope

end Accepted

/-! ## The schema -/

/-- Let a library do what is documented on the data in a scope, all data if it has no limits. It
accepts a document exactly when the document describes a node, and makes the record of that node.
The nodes that are described are those whose tags are not empty; each of them is made again from
what it is dumped as, and is written as before. -/
theorem check_node_iff_and_check_dump {lib : Library} {scope : Datum → Prop}
    (h : lib.DocumentedOn scope) :
    (∀ d : Json, scope d.toDatum → ∀ result, lib.check nodes .union d.toDatum = .ok result ↔
      ∃ n, result = .ofNode n ∧ Describes d.toDatum n) ∧
    ∀ n : Node, ((∃ d, Describes d n) ↔ n.Everywhere Node.HasTag) ∧
      (n.Everywhere Node.HasTag → scope (.ofNode n) → scope (documentOf n) →
        lib.check nodes .union (lib.dump (.ofNode n)) = .ok (.ofNode n) ∧
        Record.write (.ofNode n) = .ok n.markup) := by
  refine ⟨fun d hscope result => ?_, fun n => ⟨⟨?_, ?_⟩, fun htag hrecord hdocument => ?_⟩⟩
  · exact check_eq_ok_iff_describes h (plain_toDatum d) hscope
  · rintro ⟨d, hdescribes⟩
    exact hasTag_of_describes hdescribes
  · exact fun htag => ⟨documentOf n, describes_documentOf htag⟩
  · refine ⟨?_, Record.write_ofNode n⟩
    rw [h.dump_ofNode hrecord]
    exact check_of_describes h (describes_documentOf htag) (plain_documentOf n) hdocument

/-- The library that the program comes with accepts the documents that describe a node. -/
theorem validate_eq_ok_iff_describes {d : Json} {n : Node} :
    validate d = .ok n ↔ Describes d.toDatum n := by
  rw [validate, bind_eq_ok_iff]
  simp only [check_eq_ok_iff_describes checker_documented (plain_toDatum d) trivial]
  constructor
  · rintro ⟨_, ⟨n', rfl, hdescribes⟩, hn⟩
    rw [nodeOf, toNode?_ofNode] at hn
    cases hn
    exact hdescribes
  · intro hdescribes
    refine ⟨_, ⟨n, rfl, hdescribes⟩, ?_⟩
    rw [nodeOf, toNode?_ofNode]

/-- A name that occurs twice, an empty text and an element without children come back as well. -/
theorem check_dump_of_nested_element :
    let n : Node := .element "p" [("a", "1"), ("a", "")]
      [.text "", .element "br" [] [], .comment "c", .raw "<hr>"]
    checker.Documented ∧ n.Everywhere Node.HasTag ∧
      checker.check nodes .union (checker.dump (.ofNode n)) = .ok (.ofNode n) ∧
      Record.write (.ofNode n) = .ok "<p a=\"1\" a=\"\"><br/><!-- c --><hr></p>" := by
  intro n
  have houter : "p" ≠ "" := by decide
  have hinner : "br" ≠ "" := by decide
  have htags : n.Everywhere Node.HasTag :=
    ⟨houter, trivial, ⟨hinner, trivial⟩, trivial, trivial, trivial⟩
  have hdump := ((check_node_iff_and_check_dump checker_documented).2 n).2 htags trivial trivial
  refine ⟨checker_documented, htags, hdump.1, ?_⟩
  rw [Record.write_ofNode]
  exact congrArg Except.ok (by decide)

end MarkupTree.Schema

import MarkupTree.Proofs.SchemaChecks

/-!
# What the classes of nodes accept

The declarations of the four kinds of node, unfolded by what is documented of the library: which
members make a record of a text, of raw text or of a comment (`textOutcome_eq_ok_iff`), and which
make one of an element (`elementOutcome_eq_ok_iff`). What the library makes of the children is left
to the library.
-/

namespace MarkupTree.Schema

/-! ## The union -/

/-- The name of a kind is the tag of its class. -/
theorem member?_nodes_name (kind : NodeKind) :
    nodes.member? kind.name = some kind.declaration := by
  cases kind <;> rfl

/-- No class of nodes has another tag than the name of its kind. -/
theorem member?_nodes_eq_some_iff {tag : String} {cls : Class} :
    nodes.member? tag = some cls ↔ ∃ kind : NodeKind, tag = kind.name ∧ cls = kind.declaration := by
  constructor
  · intro h
    rw [Union.member?] at h
    have hfound := List.find?_some h
    have htag : cls.tag? nodes.discriminator = some tag := of_decide_eq_true hfound
    have hmem : cls ∈ nodes.members := List.mem_of_find?_eq_some h
    have hkind : ∃ kind : NodeKind, cls = kind.declaration := by
      simp only [nodes, List.mem_cons, List.not_mem_nil, or_false] at hmem
      rcases hmem with rfl | rfl | rfl | rfl <;> exact ⟨_, rfl⟩
    obtain ⟨kind, rfl⟩ := hkind
    have hname : kind.declaration.tag? nodes.discriminator = some kind.name := by
      cases kind <;> rfl
    exact ⟨kind, Option.some.inj (htag.symm.trans hname), rfl⟩
  · rintro ⟨kind, rfl, rfl⟩
    exact member?_nodes_name kind

/-! ## Members -/

/-- The kind among members is the given one, or it is left out. -/
def KindFits (kind : NodeKind) (members : List (String × Datum)) : Prop :=
  Json.member? "kind" members = none ∨ Json.member? "kind" members = some (.text kind.name)

/-- A field has a list or a tuple of items, or it is left out, which counts as no items. -/
def Lists (name : String) (members : List (String × Datum)) (items : List Datum) : Prop :=
  (∃ d, Json.member? name members = some d ∧ d.items? = some items) ∨
    Json.member? name members = none ∧ items = []

/-- An item is an attribute: a list or a tuple of two strings. -/
def IsAttribute (item : Datum) (attr : String × String) : Prop :=
  item.items? = some [.text attr.1, .text attr.2]

/-! ## Fields -/

namespace Library.DocumentedOn

variable {lib : Library} {scope : Datum → Prop} (h : lib.DocumentedOn scope) {union : Union}
  {members : List (String × Datum)} (hscope : scope (.mapping members))

include h

/-- A string that is long enough is accepted as it is. -/
theorem check_text {s : String} {least : Nat} (hs : scope (.text s)) (hleast : least ≤ s.length) :
    lib.check union (.string least) (.text s) = .ok (.text s) :=
  (h.string hs).mpr ⟨⟨s, rfl, hleast⟩, rfl⟩

include hscope

/-- What is found by name in a mapping of the scope is in the scope. -/
theorem scope_of_member? {name : String} {d : Datum} (hd : Json.member? name members = some d) :
    scope d := by
  obtain ⟨member, hmem, rfl⟩ := Json.exists_mem_of_member? hd
  exact h.member hscope hmem

/-- A string holds a field if it is there and long enough. -/
theorem holds_string_iff {name : String} {least : Nat} {value : Datum} :
    lib.Holds union members ⟨name, .string least, none⟩ value ↔
      ∃ s, Json.member? name members = some (.text s) ∧ least ≤ s.length ∧ value = .text s := by
  constructor
  · rintro (⟨d, hd, hcheck⟩ | ⟨-, hdefault⟩)
    · obtain ⟨⟨s, rfl, hleast⟩, rfl⟩ := (h.string (h.scope_of_member? hscope hd)).mp hcheck
      exact ⟨s, hd, hleast, rfl⟩
    · cases hdefault
  · rintro ⟨s, hs, hleast, rfl⟩
    exact .inl ⟨.text s, hs, h.check_text (h.scope_of_member? hscope hs) hleast⟩

/-- The kind is the only thing that its field can hold. -/
theorem holds_kind_iff {kind : NodeKind} {value : Datum} :
    lib.Holds union members ⟨"kind", .literal kind.name, some (.text kind.name)⟩ value ↔
      KindFits kind members ∧ value = .text kind.name := by
  constructor
  · rintro (⟨d, hd, hcheck⟩ | ⟨hnone, hdefault⟩)
    · obtain ⟨rfl, rfl⟩ := (h.literal (h.scope_of_member? hscope hd)).mp hcheck
      exact ⟨.inr hd, rfl⟩
    · exact ⟨.inl hnone, (Option.some.inj hdefault).symm⟩
  · rintro ⟨hnone | hd, rfl⟩
    · exact .inr ⟨hnone, rfl⟩
    · exact .inl ⟨_, hd, (h.literal (h.scope_of_member? hscope hd)).mpr ⟨rfl, rfl⟩⟩

/-- A list that may be left out holds what the library makes of its items. -/
theorem holds_list_iff {name : String} {type : FieldType} {value : Datum}
    (hrecord : ∀ d, Json.member? name members = some d → d.isRecord = false) :
    lib.Holds union members ⟨name, .list type, some (.list [])⟩ value ↔
      ∃ items results, Lists name members items ∧
        List.Forall₂ (fun d r => lib.check union type d = .ok r) items results ∧
        value = .list results := by
  constructor
  · rintro (⟨d, hd, hcheck⟩ | ⟨hnone, hdefault⟩)
    · rw [h.list (h.scope_of_member? hscope hd) (hrecord d hd)] at hcheck
      obtain ⟨items, results, hitems, hresults, rfl⟩ := hcheck
      exact ⟨items, results, .inl ⟨d, hd, hitems⟩, hresults, rfl⟩
    · cases hdefault
      exact ⟨[], [], .inr ⟨hnone, rfl⟩, .nil, rfl⟩
  · rintro ⟨items, results, ⟨d, hd, hitems⟩ | ⟨hnone, rfl⟩, hresults, rfl⟩
    · refine .inl ⟨d, hd, ?_⟩
      rw [h.list (h.scope_of_member? hscope hd) (hrecord d hd)]
      exact ⟨items, results, hitems, hresults, rfl⟩
    · cases hresults
      exact .inr ⟨hnone, rfl⟩

/-- The items that a field lists are in the scope. -/
theorem scope_of_lists {name : String} {items : List Datum} (hitems : Lists name members items) :
    ∀ item ∈ items, scope item := by
  rcases hitems with ⟨d, hd, hitems⟩ | ⟨-, rfl⟩
  · exact fun item => h.item (h.scope_of_member? hscope hd) hitems
  · simp

omit hscope

/-- A pair of strings is accepted as it is, but that it becomes a tuple. -/
theorem check_pair_eq_ok_iff {item result : Datum} (hitem : scope item)
    (hrecord : item.isRecord = false) :
    lib.check union (.pair (.string 0) (.string 0)) item = .ok result ↔
      ∃ attr, IsAttribute item attr ∧ result = attributeDatum attr := by
  rw [h.pair hitem hrecord]
  constructor
  · rintro ⟨a, b, r, s, hitems, ha, hb, rfl⟩
    have hscope : scope a ∧ scope b := by
      refine ⟨h.item hitem hitems ?_, h.item hitem hitems ?_⟩ <;> simp
    obtain ⟨⟨name, rfl, -⟩, rfl⟩ := (h.string hscope.1).mp ha
    obtain ⟨⟨value, rfl, -⟩, rfl⟩ := (h.string hscope.2).mp hb
    exact ⟨(name, value), hitems, rfl⟩
  · rintro ⟨⟨name, value⟩, hitems, rfl⟩
    have hscope : scope (.text name) ∧ scope (.text value) := by
      refine ⟨h.item hitem hitems ?_, h.item hitem hitems ?_⟩ <;> simp
    exact ⟨_, _, _, _, hitems, h.check_text hscope.1 (Nat.zero_le _),
      h.check_text hscope.2 (Nat.zero_le _), rfl⟩

/-- Pairs of strings are accepted one by one. -/
theorem check_pairs_iff {items results : List Datum} (hitems : ∀ item ∈ items, scope item)
    (hrecord : ∀ item ∈ items, item.isRecord = false) :
    List.Forall₂ (fun d r => lib.check union (.pair (.string 0) (.string 0)) d = .ok r) items
        results ↔
      ∃ attributes, List.Forall₂ IsAttribute items attributes ∧
        results = attributes.map attributeDatum := by
  induction items generalizing results with
  | nil =>
    rw [List.forall₂_nil_left_iff]
    constructor
    · rintro rfl
      exact ⟨[], .nil, rfl⟩
    · rintro ⟨attributes, hattributes, rfl⟩
      cases hattributes
      rfl
  | cons item items ih =>
    obtain ⟨hitem, hitems⟩ := List.forall_mem_cons.mp hitems
    obtain ⟨hfirst, hrecord⟩ := List.forall_mem_cons.mp hrecord
    rw [List.forall₂_cons_left_iff]
    simp only [h.check_pair_eq_ok_iff hitem hfirst, ih hitems hrecord]
    constructor
    · rintro ⟨_, _, ⟨attr, hattr, rfl⟩, ⟨attributes, hattributes, rfl⟩, rfl⟩
      exact ⟨attr :: attributes, .cons hattr hattributes, rfl⟩
    · rintro ⟨_, hattributes, rfl⟩
      cases hattributes with
      | cons hattr hattributes =>
        exact ⟨_, _, ⟨_, hattr, rfl⟩, ⟨_, hattributes, rfl⟩, rfl⟩

end Library.DocumentedOn

/-! ## Classes -/

section Outcome

variable {lib : Library} {scope : Datum → Prop} (h : lib.DocumentedOn scope)
  {members : List (String × Datum)} (hscope : scope (.mapping members))

include h hscope

/-- A record that holds a text is made of a text, with the kind or without, and nothing else. -/
theorem textOutcome_eq_ok_iff {kind : NodeKind} {result : Datum}
    (hcontents : kind.contents = [⟨"text", .string 0, none⟩]) :
    kind.declaration.outcome (lib.checks nodes members) = .ok result ↔
      KindFits kind members ∧ OnlyFields ["kind", "text"] members ∧ ∃ content,
        Json.member? "text" members = some (.text content) ∧ result = textRecord kind content := by
  rw [Library.class_outcome_eq_ok_iff, NodeKind.declaration, hcontents]
  simp only [Library.holdAll_cons_iff, Library.holdAll_nil_iff, List.map_cons, List.map_nil,
    h.holds_kind_iff hscope, h.holds_string_iff hscope]
  constructor
  · rintro ⟨_, ⟨_, _, ⟨hkind, rfl⟩, ⟨_, _, ⟨content, htext, -, rfl⟩, rfl, rfl⟩, rfl⟩, hnames, rfl⟩
    exact ⟨hkind, hnames, content, htext, rfl⟩
  · rintro ⟨hkind, hnames, content, htext, rfl⟩
    exact ⟨_, ⟨_, _, ⟨hkind, rfl⟩, ⟨_, _, ⟨content, htext, Nat.zero_le _, rfl⟩, rfl, rfl⟩, rfl⟩,
      hnames, rfl⟩

/-- An element is made of a tag that is not empty, attributes and children, with the kind or
without, and nothing else. -/
theorem elementOutcome_eq_ok_iff {result : Datum}
    (hattributes : ∀ d, Json.member? "attributes" members = some d → d.isRecord = false ∧
      ∀ items, d.items? = some items → ∀ item ∈ items, item.isRecord = false)
    (hchildren : ∀ d, Json.member? "children" members = some d → d.isRecord = false) :
    NodeKind.element.declaration.outcome (lib.checks nodes members) = .ok result ↔
      KindFits .element members ∧ OnlyFields ["kind", "tag", "attributes", "children"] members ∧
      ∃ tag listed attributes items children,
        Json.member? "tag" members = some (.text tag) ∧ tag ≠ "" ∧
        Lists "attributes" members listed ∧ List.Forall₂ IsAttribute listed attributes ∧
        Lists "children" members items ∧
        List.Forall₂ (fun d r => lib.check nodes .union d = .ok r) items children ∧
        result = elementRecord tag attributes children := by
  -- The items of the attributes are pairs whether they are listed or the default is.
  have hpairs {listed results} (hlisted : Lists "attributes" members listed) :
      List.Forall₂ (fun d r => lib.check nodes (.pair (.string 0) (.string 0)) d = .ok r) listed
          results ↔ ∃ attributes, List.Forall₂ IsAttribute listed attributes ∧
            results = attributes.map attributeDatum := by
    refine h.check_pairs_iff (h.scope_of_lists hscope hlisted) ?_
    rcases hlisted with ⟨d, hd, hitems⟩ | ⟨-, rfl⟩
    · exact (hattributes d hd).2 _ hitems
    · simp
  have hempty (s : String) : 1 ≤ s.length ↔ s ≠ "" := by
    rw [Nat.one_le_iff_ne_zero, Ne, String.length_eq_zero_iff]
  rw [Library.class_outcome_eq_ok_iff, NodeKind.declaration, NodeKind.contents]
  -- The declared fields hold what they should, one condition for each in their order.
  simp only [Library.holdAll_cons_iff, Library.holdAll_nil_iff, List.map_cons, List.map_nil,
    h.holds_kind_iff hscope, h.holds_string_iff hscope,
    h.holds_list_iff hscope fun d hd => (hattributes d hd).1, h.holds_list_iff hscope hchildren]
  constructor
  · rintro ⟨_, ⟨_, _, ⟨hkind, rfl⟩, ⟨_, _, ⟨tag, htag, hlength, rfl⟩,
      ⟨_, _, ⟨listed, _, hlisted, hresults, rfl⟩,
        ⟨_, _, ⟨items, children, hitems, hchecked, rfl⟩, rfl, rfl⟩, rfl⟩, rfl⟩, rfl⟩, hnames, rfl⟩
    obtain ⟨attributes, hattributes, rfl⟩ := (hpairs hlisted).mp hresults
    exact ⟨hkind, hnames, tag, listed, attributes, items, children, htag, (hempty tag).mp hlength,
      hlisted, hattributes, hitems, hchecked, rfl⟩
  · rintro ⟨hkind, hnames, tag, listed, attributes, items, children, htag, hne, hlisted,
      hattributes, hitems, hchecked, rfl⟩
    have hresults := (hpairs hlisted).mpr ⟨attributes, hattributes, rfl⟩
    exact ⟨_, ⟨_, _, ⟨hkind, rfl⟩, ⟨_, _, ⟨tag, htag, (hempty tag).mpr hne, rfl⟩,
      ⟨_, _, ⟨listed, _, hlisted, hresults, rfl⟩,
        ⟨_, _, ⟨items, children, hitems, hchecked, rfl⟩, rfl, rfl⟩, rfl⟩, rfl⟩, rfl⟩, hnames, rfl⟩

end Outcome

end MarkupTree.Schema

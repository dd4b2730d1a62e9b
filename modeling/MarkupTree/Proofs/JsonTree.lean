import MarkupTree.Proofs.JsonSpelling

/-!
# The tree that a document spells

Turning the names of a value into symbols can go wrong, for a name need not be a text. The names of
a document always are: `tree` is the value that comes out, without any way to fail
(`symbolize_toValue`). What the tree is read as is described one level deep, on the document itself,
by `read_tree_eq_ok_iff`. A document that is left as it stands holds no symbols, so it is read as a
node only if it is a text.
-/

namespace MarkupTree.Json

/-! ## Items of an array -/

/-- The items of an array. -/
def items? : Json → Option (List Json)
  | .array items => some items
  | _ => none

/-- Induction over the items of arrays. What stands inside an object is no item. -/
@[elab_as_elim]
theorem itemInduction {P : Json → Prop}
    (array : ∀ items, (∀ d ∈ items, P d) → P (.array items))
    (atom : ∀ d : Json, d.items? = none → P d) : ∀ d, P d
  | .array items => array items fun d _ => itemInduction array atom d
  | .null => atom .null rfl
  | .bool b => atom (.bool b) rfl
  | .int i => atom (.int i) rfl
  | .float x => atom (.float x) rfl
  | .text s => atom (.text s) rfl
  | .object members => atom (.object members) rfl

/-! ## Names and attribute slots -/

/-- A name of an attribute: a symbol, unless it is empty. -/
def nameTree (name : String) : Value :=
  if h : name = "" then .text name else .symbol ⟨name, h⟩

/-- An attribute slot: the members of an object keep their values and their order. -/
def slotTree : Json → Value
  | .object members => .mapping (members.map fun (name, value) => (nameTree name, value.toValue))
  | d => d.toValue

/-- A name is the symbol of that name and no other. -/
theorem nameTree_eq_symbol_iff {name : String} {s : Symbol} :
    nameTree name = .symbol s ↔ name = s.name := by
  by_cases h : name = ""
  · subst h
    simp [nameTree, s.name_ne_empty.symm]
  · simp [nameTree, h, Symbol.ext_iff]

/-- Making a symbol of a name in a document never fails. -/
theorem symbolizeName_text (name : String) :
    Value.symbolizeName (.text name) = .ok (nameTree name) := by
  by_cases h : name = ""
  · subst h
    rfl
  · rw [nameTree, dif_neg h]
    exact Value.symbolizeName_name ⟨name, h⟩

/-- Making symbols of the names in an attribute slot never fails. -/
theorem symbolizeAttributes_toValue (d : Json) :
    d.toValue.symbolizeAttributes = .ok d.slotTree := by
  cases d with
  | object members =>
    rw [toValue, toEntries_eq_map, Value.symbolizeAttributes, slotTree]
    refine bind_eq_ok_iff.mpr ⟨_, mapM_map_eq_ok_map ?_, rfl⟩
    intro member _
    exact bind_eq_ok_iff.mpr ⟨_, symbolizeName_text member.1, rfl⟩
  | _ => rfl

/-! ## Trees -/

mutual

/-- The tree that a document spells. What has no name at its head is left as it stands, and so is
what follows a marker. -/
def tree : Json → Value
  | .array (.text head :: rest) =>
    if h : head = "" then .list (.text head :: toValues rest)
    else if Symbol.IsMarker ⟨head, h⟩ then .list (.symbol ⟨head, h⟩ :: toValues rest)
    else
      match rest with
      | [] => .list [.symbol ⟨head, h⟩]
      | slot :: children => .list (.symbol ⟨head, h⟩ :: slot.slotTree :: treeAll children)
  | d => d.toValue

/-- The trees that the children of an element spell. -/
def treeAll : List Json → List Value
  | [] => []
  | d :: ds => d.tree :: treeAll ds

end

theorem treeAll_eq_map (ds : List Json) : treeAll ds = ds.map tree := by
  induction ds with
  | nil => rfl
  | cons d ds ih => rw [treeAll, ih, List.map_cons]

/-- What follows a marker is left as it stands. -/
theorem tree_marker {s : Symbol} (h : s.IsMarker) (rest : List Json) :
    (Json.array (.text s.name :: rest)).tree = .list (.symbol s :: rest.map toValue) := by
  rw [tree, dif_neg s.name_ne_empty, if_pos h, toValues_eq_map]

/-- In an element the slot and the children are converted. -/
theorem tree_element {tag : Symbol} (h : ¬ tag.IsMarker) (slot : Json) (children : List Json) :
    (Json.array (.text tag.name :: slot :: children)).tree =
      .list (.symbol tag :: slot.slotTree :: children.map tree) := by
  rw [tree, dif_neg tag.name_ne_empty, if_neg h, ← treeAll_eq_map]

/-- A tag alone becomes a symbol. -/
theorem tree_singleton {tag : Symbol} (h : ¬ tag.IsMarker) :
    (Json.array [.text tag.name]).tree = .list [.symbol tag] := by
  rw [tree, dif_neg tag.name_ne_empty, if_neg h]

/-- A document without a name at its head. -/
def Headless (d : Json) : Prop :=
  ∀ (s : Symbol) (rest : List Json), d ≠ .array (.text s.name :: rest)

/-- A document without a head is left as it stands. -/
theorem Headless.tree_eq_toValue {d : Json} (h : d.Headless) : d.tree = d.toValue := by
  unfold tree
  split
  · next head rest =>
    by_cases hhead : head = ""
    · rw [dif_pos hhead]
      rfl
    · exact absurd rfl (h ⟨head, hhead⟩ rest)
  · rfl

/-- Making symbols leaves a document without a head as it stands. -/
theorem Headless.symbolize_toValue {d : Json} (h : d.Headless) :
    d.toValue.symbolize = .ok d.toValue := by
  cases d with
  | array items =>
    cases items with
    | nil => rfl
    | cons head rest =>
      cases head with
      | text name =>
        have hname : name = "" := by
          by_contra hname
          exact h ⟨name, hname⟩ rest rfl
        rw [toValue, toValues, toValue, Value.symbolize, dif_pos hname]
      | _ => rfl
  | _ => rfl

/-- A document either has a name at its head, which is a marker or a tag, or it has none. -/
theorem headless_or_exists_eq_array (d : Json) :
    d.Headless ∨ ∃ (s : Symbol) (rest : List Json), d = .array (.text s.name :: rest) := by
  by_cases h : ∃ (s : Symbol) (rest : List Json), d = .array (.text s.name :: rest)
  · exact .inr h
  · exact .inl fun s rest hd => h ⟨s, rest, hd⟩

/-- No name of a document stands in the way of its tree. -/
theorem symbolize_toValue (d : Json) : d.toValue.symbolize = .ok d.tree := by
  induction d using itemInduction with
  | array items ih =>
    rcases headless_or_exists_eq_array (.array items) with h | ⟨s, rest, h⟩
    · rw [h.symbolize_toValue, h.tree_eq_toValue]
    obtain rfl := Json.array.inj h
    rw [toValue, toValues, toValue, toValues_eq_map]
    by_cases hs : s.IsMarker
    · rw [Value.symbolize_marker hs, tree_marker hs]
    -- The attribute slot is converted in its own way, the children as documents of their own.
    · cases rest with
      | nil =>
        rw [tree_singleton hs, List.map_nil, Value.symbolize, dif_neg s.name_ne_empty, if_neg hs]
      | cons slot children =>
        rw [tree_element hs, List.map_cons]
        refine Value.symbolize_element hs (symbolizeAttributes_toValue slot) ?_
        rw [List.forall₂_map_left_iff, List.forall₂_map_right_iff, List.forall₂_same]
        exact fun child hchild => ih child (by simp [hchild])
  | atom d hd =>
    have h : d.Headless := by
      rintro s rest rfl
      cases hd
    rw [h.symbolize_toValue, h.tree_eq_toValue]

/-! ## What trees are read as -/

/-- A slot of a document and the attributes that it spells. -/
inductive SpellsAttributes : Json → List (String × String) → Prop
  /-- No attributes are written down. -/
  | absent : SpellsAttributes .null []
  /-- An array can only be empty. -/
  | empty : SpellsAttributes (.array []) []
  /-- The members of an object have names, and texts as values. -/
  | object {attributes} (h : ∀ a ∈ attributes, a.1 ≠ "") :
      SpellsAttributes (.object (Node.attributeMembers attributes)) attributes

/-- One level of a document whose tree is read as a node. -/
inductive ReadsAs : Json → Node → Prop
  /-- A text. -/
  | text (content) : ReadsAs (.text content) (.text content)
  /-- Raw text; what follows the payload does not count. -/
  | raw (content rest) :
      ReadsAs (.array (.text "raw-string" :: .text content :: rest)) (.raw content)
  /-- A comment; neither the placeholder nor what follows the payload counts. -/
  | comment (placeholder content rest) :
      ReadsAs (.array (.text "comment" :: placeholder :: .text content :: rest)) (.comment content)
  /-- An element with its attributes and its children. -/
  | element {tag : Symbol} {slot attributes children nodes} (htag : ¬ tag.IsMarker)
      (hslot : SpellsAttributes slot attributes)
      (hchildren : List.Forall₂ (fun child node => child.tree.read = .ok node) children nodes) :
      ReadsAs (.array (.text tag.name :: slot :: children)) (.element tag.name attributes nodes)

/-- A document is no symbol. -/
theorem toValue_ne_symbol (d : Json) (s : Symbol) : d.toValue ≠ .symbol s := by
  cases d <;> simp [toValue]

/-- Nothing in a document that is left as it stands has a symbol at its head. -/
theorem map_toValue_ne_symbol_cons (items : List Json) (s : Symbol) (rest : List Value) :
    items.map toValue ≠ .symbol s :: rest := by
  intro h
  obtain ⟨item, _, -, hitem, -⟩ := List.map_eq_cons_iff.mp h
  exact toValue_ne_symbol item s hitem

/-- Only a string is a text. -/
theorem toValue_eq_text_iff {d : Json} {content : String} :
    d.toValue = .text content ↔ d = .text content := by
  cases d <;> simp [toValue]

/-- A document that is left as it stands is read as a node only if it is a text: the head of an
array is no symbol. -/
theorem Headless.exists_eq_text {d : Json} (h : d.Headless) {n : Node}
    (hn : d.tree.read = .ok n) : ∃ content, d = .text content ∧ n = .text content := by
  rw [h.tree_eq_toValue, Value.read_eq_ok_iff] at hn
  cases d with
  | text content =>
    cases hn
    exact ⟨content, rfl, rfl⟩
  | array items =>
    rw [toValue, toValues_eq_map] at hn
    obtain ⟨s, rest, hitems⟩ := hn.exists_eq_symbol_cons
    exact absurd hitems (map_toValue_ne_symbol_cons items s rest)
  | _ =>
    rw [toValue] at hn
    cases hn

/-- An object holds its members as attributes when all of them are strings with names. -/
theorem holdsAttributes_slotTree_object_iff {members : List (String × Json)}
    {pairs : List (Symbol × String)} :
    (Json.object members).slotTree.HoldsAttributes pairs ↔
      members = Node.attributeMembers (Value.attributesByName pairs) := by
  have hmember (member : String × Json) (a : Symbol × String) :
      (nameTree member.1, member.2.toValue) = (.symbol a.1, .text a.2) ↔
        member = (a.1.name, .text a.2) := by
    rw [Prod.ext_iff, Prod.ext_iff, nameTree_eq_symbol_iff, toValue_eq_text_iff]
  have hmembers : List.Forall₂ (fun (entry : Value × Value) (a : Symbol × String) =>
        entry = (.symbol a.1, .text a.2))
        (members.map fun (name, value) => (nameTree name, value.toValue)) pairs ↔
      members = pairs.map fun a => (a.1.name, .text a.2) := by
    rw [List.forall₂_map_left_iff, ← List.forall₂_eq_eq_eq, List.forall₂_map_right_iff]
    simp only [hmember]
  rw [Node.attributeMembers, Value.attributesByName, List.map_map, slotTree]
  exact ⟨fun h => by cases h with | mapping h => exact hmembers.mp h,
    fun h => .mapping (hmembers.mpr h)⟩

/-- No item of an array is an attribute, for its name would have to be a symbol. -/
theorem eq_nil_of_holdsAttributes_slotTree {items : List Json} {pairs : List (Symbol × String)}
    (h : (Json.array items).slotTree.HoldsAttributes pairs) : items = [] ∧ pairs = [] := by
  rw [slotTree, toValue, toValues_eq_map] at h
  · cases h with
    | pairs hentries =>
      cases items with
      | nil => exact ⟨rfl, List.forall₂_nil_left_iff.mp hentries⟩
      | cons item items =>
        obtain ⟨a, _, ⟨kind, hpair⟩, -⟩ := List.forall₂_cons_left_iff.mp hentries
        cases item with
        | array items' =>
          rw [toValue, toValues_eq_map] at hpair
          exact absurd (Value.sequence.inj hpair).2 (map_toValue_ne_symbol_cons items' a.1 _)
        | _ => cases hpair
  · simp

/-- A slot holds attributes exactly when it spells them. -/
theorem exists_holdsAttributes_slotTree_iff {d : Json} {attributes : List (String × String)} :
    (∃ pairs, d.slotTree.HoldsAttributes pairs ∧ Value.attributesByName pairs = attributes) ↔
      SpellsAttributes d attributes := by
  constructor
  · rintro ⟨pairs, hpairs, rfl⟩
    cases d with
    | null => cases hpairs; exact .absent
    | array items =>
      obtain ⟨rfl, rfl⟩ := eq_nil_of_holdsAttributes_slotTree hpairs
      exact .empty
    | object members =>
      rw [holdsAttributes_slotTree_object_iff.mp hpairs]
      refine .object fun a ha => ?_
      obtain ⟨pair, -, rfl⟩ := List.mem_map.mp ha
      exact pair.1.name_ne_empty
    | _ => nomatch hpairs
  · intro h
    cases h with
    | absent => exact ⟨[], .absent, rfl⟩
    | empty => exact ⟨[], .pairs .nil, rfl⟩
    | object h =>
      obtain ⟨pairs, rfl⟩ := Node.exists_attributesByName_eq h
      exact ⟨pairs, holdsAttributes_slotTree_object_iff.mpr rfl, rfl⟩

/-- What is read is what the document spells. -/
theorem readsAs_of_read_tree {d : Json} {n : Node} (h : d.tree.read = .ok n) : ReadsAs d n := by
  rcases headless_or_exists_eq_array d with hd | ⟨s, rest, rfl⟩
  · obtain ⟨content, rfl, rfl⟩ := hd.exists_eq_text h
    exact .text content
  by_cases hs : s.IsMarker
  -- Behind a marker the slots are those of the document, so their texts are too.
  · rw [tree_marker hs] at h
    rcases hs with rfl | rfl
    · obtain ⟨content, _, hrest, rfl⟩ := Value.read_rawString_eq_ok_iff.mp h
      obtain ⟨payload, others, rfl, hpayload, -⟩ := List.map_eq_cons_iff.mp hrest
      obtain rfl := toValue_eq_text_iff.mp hpayload
      exact .raw content others
    · obtain ⟨_, content, _, hrest, rfl⟩ := Value.read_comment_eq_ok_iff.mp h
      obtain ⟨placeholder, others, rfl, -, hothers⟩ := List.map_eq_cons_iff.mp hrest
      obtain ⟨payload, others, rfl, hpayload, -⟩ := List.map_eq_cons_iff.mp hothers
      obtain rfl := toValue_eq_text_iff.mp hpayload
      exact .comment placeholder content others
  · cases rest with
    | nil =>
      rw [tree_singleton hs, Value.read_of_length_lt_two .list (by simp)] at h
      cases h
    | cons slot children =>
      rw [tree_element hs, Value.read_tag_eq_ok_iff hs] at h
      obtain ⟨_, _, pairs, nodes, hrest, hslot, hchildren, rfl⟩ := h
      obtain ⟨rfl, rfl⟩ := List.cons.inj hrest
      exact .element hs (exists_holdsAttributes_slotTree_iff.mp ⟨pairs, hslot, rfl⟩)
        (List.forall₂_map_left_iff.mp hchildren)

/-- What the document spells is read. -/
theorem read_tree_of_readsAs {d : Json} {n : Node} (h : ReadsAs d n) : d.tree.read = .ok n := by
  cases h with
  | text content => exact Value.read_text content
  | raw content rest =>
    have htree := tree_marker Symbol.isMarker_rawString (.text content :: rest)
    exact (congrArg Value.read htree).trans (Value.read_raw .list content _)
  | comment placeholder content rest =>
    have htree := tree_marker Symbol.isMarker_comment (placeholder :: .text content :: rest)
    exact (congrArg Value.read htree).trans (Value.read_comment .list _ content _)
  | element htag hslot hchildren =>
    obtain ⟨pairs, hpairs, rfl⟩ := exists_holdsAttributes_slotTree_iff.mpr hslot
    rw [tree_element htag]
    exact Value.read_of_readsAs
      (.element .list htag hpairs (List.forall₂_map_left_iff.mpr hchildren))

/-- The tree of a document is read as a node exactly when the document has one of the four forms. -/
theorem read_tree_eq_ok_iff {d : Json} {n : Node} : d.tree.read = .ok n ↔ ReadsAs d n :=
  ⟨readsAs_of_read_tree, read_tree_of_readsAs⟩

end MarkupTree.Json

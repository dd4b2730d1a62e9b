import MarkupTree.Proofs.NodeTree
import MarkupTree.Proofs.SxmlReading
import MarkupTree.Proofs.SymbolSteps

/-!
# Spelling nodes in JSON

`toJson` writes a node as a document of the standard notation, and `toSxmlJson` as one of the SXML
notation. What is written comes back: the document is turned into a value, its names into symbols,
in SXML the value is converted, and reading yields the node that was written
(`exists_symbolize_toJson_and_read`, `read_symbolizeSxml_toSxmlJson`). An object cannot have a name
twice, and SXML has no raw text, so each notation has nodes that only the other one can spell.
-/

namespace MarkupTree.Node

/-! ## Spellings -/

/-- The members of the object that holds attributes. -/
def attributeMembers (attributes : List (String × String)) : List (String × Json) :=
  attributes.map fun (name, value) => (name, .text value)

/-- The entries of the attribute list that holds attributes. -/
def attributeEntries (attributes : List (String × String)) : List Json :=
  attributes.map fun (name, value) => .array [.text name, .text value]

mutual

/-- A node in the standard notation. -/
def toJson : Node → Json
  | .text content => .text content
  | .raw content => .array [.text "raw-string", .text content]
  | .comment content => .array [.text "comment", .null, .text content]
  | .element tag attributes children =>
    .array (.text tag :: .ofMembers (attributeMembers attributes) :: toJsonAll children)

/-- The nodes of a list in the standard notation. -/
def toJsonAll : List Node → List Json
  | [] => []
  | n :: ns => n.toJson :: toJsonAll ns

end

theorem toJsonAll_eq_map (ns : List Node) : toJsonAll ns = ns.map toJson := by
  induction ns with
  | nil => rfl
  | cons n ns ih => rw [toJsonAll, ih, List.map_cons]

mutual

/-- A node in the SXML notation, where nothing stands for raw text. -/
def toSxmlJson : Node → Json
  | .text content => .text content
  | .raw _ => .null
  | .comment content => .array [.text "comment", .text content]
  | .element tag attributes children =>
    .array (.text tag :: .array (.text "@" :: attributeEntries attributes) ::
      toSxmlJsonAll children)

/-- The nodes of a list in the SXML notation. -/
def toSxmlJsonAll : List Node → List Json
  | [] => []
  | n :: ns => n.toSxmlJson :: toSxmlJsonAll ns

end

theorem toSxmlJsonAll_eq_map (ns : List Node) : toSxmlJsonAll ns = ns.map toSxmlJson := by
  induction ns with
  | nil => rfl
  | cons n ns ih => rw [toSxmlJsonAll, ih, List.map_cons]

/-! ## Nodes that can be spelled -/

/-- The tag of an element is a name and no marker, and its attributes have names. -/
def HasSpellableNames : Node → Prop
  | .element tag attributes _ =>
    (tag ≠ "" ∧ tag ≠ "raw-string" ∧ tag ≠ "comment") ∧ ∀ a ∈ attributes, a.1 ≠ ""
  | _ => True

/-- The attributes of an element have distinct names. -/
def HasDistinctNames : Node → Prop
  | .element _ attributes _ => (attributes.map Prod.fst).Nodup
  | _ => True

/-- Anything but raw text. -/
def IsNotRaw : Node → Prop
  | .raw _ => False
  | _ => True

/-- A name that is no marker is the tag of an element. -/
theorem exists_symbol_name_eq {tag : String} (hempty : tag ≠ "") (hraw : tag ≠ "raw-string")
    (hcomment : tag ≠ "comment") : ∃ s : Symbol, ¬ s.IsMarker ∧ s.name = tag := by
  refine ⟨⟨tag, hempty⟩, ?_, rfl⟩
  rintro (h | h)
  · exact hraw (congrArg Symbol.name h)
  · exact hcomment (congrArg Symbol.name h)

theorem exists_attributesByName_eq {attributes : List (String × String)}
    (h : ∀ a ∈ attributes, a.1 ≠ "") : ∃ pairs, Value.attributesByName pairs = attributes := by
  induction attributes with
  | nil => exact ⟨[], rfl⟩
  | cons a attributes ih =>
    obtain ⟨hname, hrest⟩ := List.forall_mem_cons.mp h
    obtain ⟨pairs, rfl⟩ := ih hrest
    exact ⟨(⟨a.1, hname⟩, a.2) :: pairs, rfl⟩

/-! ## What the spellings of an element are as values -/

theorem toValue_toJson_element (tag : Symbol) {pairs : List (Symbol × String)}
    (h : ((Value.attributesByName pairs).map Prod.fst).Nodup) (children : List Node) :
    (element tag.name (Value.attributesByName pairs) children).toJson.toValue =
      .list (.text tag.name ::
        .mapping (pairs.map fun (name, value) => (.text name.name, .text value)) ::
        children.map fun child => child.toJson.toValue) := by
  have hmembers : ((attributeMembers (Value.attributesByName pairs)).map Prod.fst).Nodup := by
    rw [attributeMembers, List.map_map]
    exact h
  rw [toJson, Json.ofMembers_eq_object hmembers]
  simp [Json.toValue, toJsonAll_eq_map, attributeMembers, Value.attributesByName]

theorem symbolizeSxml_toSxmlJson_element (tag : Symbol) (pairs : List (Symbol × String))
    (children : List Node) :
    (element tag.name (Value.attributesByName pairs) children).toSxmlJson.toValue.symbolizeSxml =
      .list (.symbol tag ::
        .list (.symbol .attributeList ::
          pairs.map fun (name, value) => .list [.symbol name, .text value]) ::
        children.map fun child => child.toSxmlJson.toValue.symbolizeSxml) := by
  have hvalue : (element tag.name (Value.attributesByName pairs) children).toSxmlJson.toValue =
      .list (.text tag.name ::
        .list (.text Symbol.attributeList.name ::
          pairs.map fun (name, value) => .list [.text name.name, .text value]) ::
        children.map fun child => child.toSxmlJson.toValue) := by
    simp [toSxmlJson, Json.toValue, toSxmlJsonAll_eq_map, attributeEntries,
      Value.attributesByName, Symbol.attributeList]
  have hentry (pair : Symbol × String) :
      (Value.list [.text pair.1.name, .text pair.2]).symbolizeSxml =
        .list [.symbol pair.1, .text pair.2] := Value.symbolizeSxml_list pair.1 [.text pair.2]
  rw [hvalue, Value.symbolizeSxml_list, List.map_cons, Value.symbolizeSxml_list, List.map_map,
    List.map_map]
  simp only [Function.comp_def, hentry]

/-! ## Reading what was written -/

/-- The slot of the standard notation, once its names are symbols, holds the attributes. -/
theorem exists_symbolizeAttributes_and_holdsAttributes (pairs : List (Symbol × String)) :
    ∃ slot : Value,
      (Value.mapping (pairs.map fun (name, value) =>
        (.text name.name, .text value))).symbolizeAttributes = .ok slot ∧
      slot.HoldsAttributes pairs := by
  have hslot := Value.symbolizeAttributes_mapping
    (pairs.map fun (name, value) => (name, .text value))
  rw [List.map_map, List.map_map] at hslot
  refine ⟨_, hslot, .mapping ?_⟩
  rw [List.forall₂_map_left_iff, List.forall₂_same]
  exact fun _ _ => rfl

/-- The entries of the SXML notation, once their names are symbols, are read as the attributes. -/
theorem forall₂_entryReadsAs (pairs : List (Symbol × String)) :
    List.Forall₂ Sxml.EntryReadsAs
      (pairs.map fun (name, value) => .list [.symbol name, .text value]) pairs := by
  rw [List.forall₂_map_left_iff, List.forall₂_same]
  exact fun pair _ => .valued .list pair.1 pair.2

/-- A node with distinct names comes back from the standard notation. -/
theorem exists_symbolize_toJson_and_read {n : Node} (hnames : n.Everywhere HasSpellableNames)
    (hdistinct : n.Everywhere HasDistinctNames) :
    ∃ v, n.toJson.toValue.symbolize = .ok v ∧ v.read = .ok n := by
  induction n using treeInduction with
  | text content => exact ⟨.text content, rfl, Value.read_text content⟩
  | raw content =>
    exact ⟨_, Value.symbolize_marker Symbol.isMarker_rawString _, Value.read_raw .list content []⟩
  | comment content =>
    exact ⟨_, Value.symbolize_marker Symbol.isMarker_comment _,
      Value.read_comment .list .null content []⟩
  | element tag attributes children ih =>
    obtain ⟨⟨⟨hempty, hraw, hcomment⟩, hattributes⟩, hnames'⟩ := everywhere_element_iff.mp hnames
    obtain ⟨hnodup, hdistinct'⟩ := everywhere_element_iff.mp hdistinct
    obtain ⟨tag, htag, rfl⟩ := exists_symbol_name_eq hempty hraw hcomment
    obtain ⟨pairs, rfl⟩ := exists_attributesByName_eq hattributes
    rw [toValue_toJson_element tag hnodup]
    -- Both steps on the children, one after the other.
    have hchildren : List.Forall₂ (fun child node =>
        ∃ v, child.toJson.toValue.symbolize = .ok v ∧ v.read = .ok node) children children :=
      List.forall₂_same.mpr fun child hchild => ih child hchild (hnames' child hchild)
        (hdistinct' child hchild)
    obtain ⟨values, hvalues, hnodes⟩ := forall₂_comp_iff.mp hchildren
    obtain ⟨slot, hslot, hholds⟩ := exists_symbolizeAttributes_and_holdsAttributes pairs
    refine ⟨_, Value.symbolize_element htag hslot (List.forall₂_map_left_iff.mpr hvalues), ?_⟩
    exact Value.read_of_readsAs (.element .list htag hholds hnodes)

/-- A node without raw text comes back from the SXML notation. -/
theorem read_symbolizeSxml_toSxmlJson {n : Node} (hnames : n.Everywhere HasSpellableNames)
    (hnotRaw : n.Everywhere IsNotRaw) :
    Sxml.read n.toSxmlJson.toValue.symbolizeSxml = .ok n := by
  induction n using treeInduction with
  | text content => exact Sxml.read_of_readsAs (.text content)
  | raw content => exact hnotRaw.elim
  | comment content =>
    have hvalue : (comment content).toSxmlJson.toValue.symbolizeSxml =
        .list [.symbol .comment, .text content] :=
      Value.symbolizeSxml_list .comment [.text content]
    -- The content stands in slot 1 and is no attribute list.
    have hparts : Sxml.HasParts (.list [.symbol .comment, .text content]) (.symbol .comment) none
        [.text content] := .unlisted .list _ (by simp)
    have hbody : List.Forall₂ (fun item item' => Sxml.toStandard item = .ok item')
        [.text content] [.text content] :=
      .cons (Sxml.toStandard_of_convertsTo (.text content)) .nil
    have hconverts := Sxml.toStandard_of_convertsTo (.list hparts .absent hbody)
    rw [hvalue]
    exact Sxml.read_of_readsAs (.comment hparts ⟨_, hconverts⟩)
  | element tag attributes children ih =>
    obtain ⟨⟨⟨hempty, hraw, hcomment⟩, hattributes⟩, hnames'⟩ := everywhere_element_iff.mp hnames
    obtain ⟨-, hnotRaw'⟩ := everywhere_element_iff.mp hnotRaw
    obtain ⟨tag, htag, rfl⟩ := exists_symbol_name_eq hempty hraw hcomment
    obtain ⟨pairs, rfl⟩ := exists_attributesByName_eq hattributes
    rw [symbolizeSxml_toSxmlJson_element]
    have hbody : List.Forall₂ (fun item node => Sxml.read item = .ok node)
        (children.map fun child => child.toSxmlJson.toValue.symbolizeSxml) children := by
      rw [List.forall₂_map_left_iff, List.forall₂_same]
      exact fun child hchild => ih child hchild (hnames' child hchild) (hnotRaw' child hchild)
    exact Sxml.read_of_readsAs (.element htag (.listed .list .list _ _ _)
      (forall₂_entryReadsAs pairs) hbody)

/-- Both notations can spell a node, and where both do, both ways lead to its markup. -/
theorem read_spellings_and_toMarkup_eq_markup {n : Node}
    (hnames : n.Everywhere HasSpellableNames) :
    (n.Everywhere HasDistinctNames →
      ∃ v, n.toJson.toValue.symbolize = .ok v ∧ v.read = .ok n) ∧
    (n.Everywhere IsNotRaw →
      ∃ v, Sxml.toStandard n.toSxmlJson.toValue.symbolizeSxml = .ok v ∧ v.read = .ok n) ∧
    (n.Everywhere HasDistinctNames → n.Everywhere IsNotRaw →
      (∃ v, n.toJson.toValue.symbolize = .ok v ∧ v.toMarkup = .ok n.markup) ∧
      Sxml.toMarkup n.toSxmlJson.toValue.symbolizeSxml = .ok n.markup) := by
  refine ⟨exists_symbolize_toJson_and_read hnames, fun hnotRaw => ?_, fun hdistinct hnotRaw => ?_⟩
  · exact bind_eq_ok_iff.mp (read_symbolizeSxml_toSxmlJson hnames hnotRaw)
  · obtain ⟨v, hv, hread⟩ := exists_symbolize_toJson_and_read hnames hdistinct
    have hsxml := read_symbolizeSxml_toSxmlJson hnames hnotRaw
    refine ⟨⟨v, hv, map_eq_ok_iff.mpr ⟨n, hread, rfl⟩⟩, ?_⟩
    rw [Sxml.toMarkup_eq_map_read]
    exact map_eq_ok_iff.mpr ⟨n, hsxml, rfl⟩

/-- Reserved names in all the places where they mean nothing, and an attribute twice in a node that
only SXML can spell. -/
theorem read_spellings_of_reserved_names :
    let n : Node := .element "@" [("comment", "raw-string"), ("@", "")]
      [.element "@" [] [], .text "@", .comment "comment"]
    let twice : Node := .element "a" [("raw-string", "1"), ("raw-string", "2")] [n]
    twice.Everywhere HasSpellableNames ∧ ¬ twice.Everywhere HasDistinctNames ∧
    twice.Everywhere IsNotRaw ∧
    (∃ v, Sxml.toStandard twice.toSxmlJson.toValue.symbolizeSxml = .ok v ∧ v.read = .ok twice) ∧
    n.Everywhere HasSpellableNames ∧ n.Everywhere HasDistinctNames ∧ n.Everywhere IsNotRaw ∧
    (∃ v, n.toJson.toValue.symbolize = .ok v ∧ v.read = .ok n) ∧
    (∃ v, n.toJson.toValue.symbolize = .ok v ∧ v.toMarkup =
      .ok "<@ comment=\"raw-string\" @=\"\"><@/>@<!-- comment --></@>") ∧
    Sxml.toMarkup n.toSxmlJson.toValue.symbolizeSxml =
      .ok "<@ comment=\"raw-string\" @=\"\"><@/>@<!-- comment --></@>" := by
  intro n twice
  have hnames : n.Everywhere HasSpellableNames := by
    simp [n, Everywhere, EverywhereAll, HasSpellableNames]
  have hdistinct : n.Everywhere HasDistinctNames := by
    simp [n, Everywhere, EverywhereAll, HasDistinctNames]
  have hnotRaw : n.Everywhere IsNotRaw := by
    simp [n, Everywhere, EverywhereAll, IsNotRaw]
  have hnames' : twice.Everywhere HasSpellableNames :=
    everywhere_element_iff.mpr ⟨by simp [HasSpellableNames], by simpa using hnames⟩
  have hnotRaw' : twice.Everywhere IsNotRaw :=
    everywhere_element_iff.mpr ⟨trivial, by simpa using hnotRaw⟩
  have hdistinct' : ¬ twice.Everywhere HasDistinctNames := fun h => by
    simpa [HasDistinctNames] using (everywhere_element_iff.mp h).1
  have hmarkup : n.markup = "<@ comment=\"raw-string\" @=\"\"><@/>@<!-- comment --></@>" := by
    decide
  obtain ⟨hjson, -, hboth⟩ := read_spellings_and_toMarkup_eq_markup hnames
  obtain ⟨-, hsxml, -⟩ := read_spellings_and_toMarkup_eq_markup hnames'
  rw [hmarkup] at hboth
  exact ⟨hnames', hdistinct', hnotRaw', hsxml hnotRaw', hnames, hdistinct, hnotRaw,
    hjson hdistinct, hboth hdistinct hnotRaw⟩

end MarkupTree.Node

import MarkupTree.Proofs.Grammar
import MarkupTree.Proofs.SxmlReading

/-!
# The grammar of the SXML notation

A value of the SXML notation becomes markup in three passes: it is converted, read as a node, and
written. `Convertible` describes what gets through the first pass and `WellFormed` what gets through
all of them, and `directMarkup` writes a value in a single pass over the value itself. The main
result, `exists_toStandard_iff_and_toMarkup_eq_ok_iff`, says that the three passes do just that. The
two grammars differ in what they ask of a comment, whose content alone has to be a text.
-/

namespace MarkupTree.Sxml

/-! ## The grammars -/

/-- The values that can be converted. -/
inductive Convertible : Value → Prop
  /-- Every text. -/
  | text (content) : Convertible (.text content)
  /-- A list of any head, with entries of one or two items and convertible items in its body. -/
  | list {v head attributes body} (hparts : HasParts v head attributes body)
      (hentries : ∀ entry ∈ attributes.getD [], IsEntry entry)
      (hbody : ∀ item ∈ body, Convertible item) : Convertible v

/-- The values that can be written as markup. -/
inductive WellFormed : Value → Prop
  /-- Every text. -/
  | text (content) : WellFormed (.text content)
  /-- A comment: its body begins with a text, and all else only has to be convertible. -/
  | comment {v attributes content rest}
      (hparts : HasParts v (.symbol .comment) attributes (.text content :: rest))
      (hconvertible : Convertible v) : WellFormed v
  /-- An element: its entries are attributes, and the items of its body are well formed. -/
  | element {v tag attributes body} (htag : ¬ tag.IsMarker)
      (hparts : HasParts v (.symbol tag) attributes body)
      (hentries : ∀ entry ∈ attributes.getD [], ∃ a, EntryReadsAs entry a)
      (hbody : ∀ item ∈ body, WellFormed item) : WellFormed v

/-! ## Writing in one pass -/

/-- The attribute that an entry is; without a text it takes its name as value. -/
def entryMarkup : Value → String
  | .sequence _ [.symbol name, .text value] => Value.pairMarkup (.symbol name) (.text value)
  | .sequence _ (.symbol name :: _) => Value.pairMarkup (.symbol name) (.text name.name)
  | _ => ""

/-- A list as markup, where `content` is the markup of the items of its body. -/
def listMarkup (head : Symbol) (entries body : List Value) (content : String) : String :=
  if head = .comment then "<!-- " ++ Value.contentOf (body.headD .null) ++ " -->"
  else if body.isEmpty then "<" ++ head.name ++ String.join (entries.map entryMarkup) ++ "/>"
  else "<" ++ head.name ++ String.join (entries.map entryMarkup) ++ ">" ++ content ++
    "</" ++ head.name ++ ">"

mutual

/-- A value as markup, written in one pass; what is not well formed leaves no trace. -/
def directMarkup : Value → String
  | .text content => Value.escapedText content
  | .sequence _ [.symbol head] => listMarkup head [] [] ""
  | .sequence _ (.symbol head :: second :: rest) =>
    match attributeEntries? second with
    | some entries => listMarkup head entries rest (directMarkupAll rest)
    | none => listMarkup head [] (second :: rest) (directMarkupAll (second :: rest))
  | _ => ""

/-- Values as markup, one after the other. -/
def directMarkupAll : List Value → String
  | [] => ""
  | v :: vs => directMarkup v ++ directMarkupAll vs

end

theorem directMarkupAll_eq_join (vs : List Value) :
    directMarkupAll vs = String.join (vs.map directMarkup) := by
  induction vs with
  | nil => rw [directMarkupAll]; rfl
  | cons v vs ih => rw [directMarkupAll, List.map_cons, String.join_cons, ih]

theorem directMarkup_of_hasParts {v : Value} {head : Symbol} {attributes : Option (List Value)}
    {body : List Value} (h : HasParts v (.symbol head) attributes body) :
    directMarkup v =
      listMarkup head (attributes.getD []) body (String.join (body.map directMarkup)) := by
  rw [← directMarkupAll_eq_join]
  cases h with
  | listed kind kind' _ entries body =>
    rw [directMarkup, attributeEntries?_eq_some_iff.mpr ⟨kind', rfl⟩]
    rfl
  | @unlisted kind _ body h =>
    cases body with
    | nil => rw [directMarkup, directMarkupAll]; rfl
    | cons second rest =>
      rw [directMarkup, attributeEntries?_eq_none h]
      rfl

/-! ## Acceptance -/

/-- The values that are converted are the convertible ones. -/
theorem exists_toStandard_iff {v : Value} : (∃ w, toStandard v = .ok w) ↔ Convertible v := by
  simp only [toStandard_eq_ok_iff]
  constructor
  · rintro ⟨w, h⟩
    induction v using Value.slotInduction generalizing w with
    | sequence kind items ih =>
      cases h with
      | list hparts hslot hbody =>
        -- The items of the body stand in slots of the list.
        refine .list hparts (exists_slotConvertsTo_iff.mp ⟨_, hslot⟩) fun item hitem => ?_
        obtain ⟨item', hitem'⟩ := exists_forall₂_iff.mp ⟨_, hbody⟩ item hitem
        exact ih item (hparts.mem_items hitem) item' (toStandard_eq_ok_iff.mp hitem')
    | atom v hv =>
      cases h with
      | text content => exact .text content
      | list hparts => exact absurd hv hparts.items?_ne_none
  · intro h
    induction h with
    | text content => exact ⟨_, .text content⟩
    | list hparts hentries _ ih =>
      obtain ⟨slot, hslot⟩ := exists_slotConvertsTo_iff.mpr hentries
      simp only [← toStandard_eq_ok_iff] at ih
      obtain ⟨items, hitems⟩ := exists_forall₂_iff.mpr ih
      exact ⟨_, .list hparts hslot hitems⟩

/-- The values that are read as a node are the well-formed ones. -/
theorem exists_read_iff {v : Value} : (∃ n, read v = .ok n) ↔ WellFormed v := by
  simp only [read_eq_ok_iff]
  constructor
  · rintro ⟨n, h⟩
    induction v using Value.slotInduction generalizing n with
    | sequence kind items ih =>
      cases h with
      | comment hparts hconverts => exact .comment hparts (exists_toStandard_iff.mp hconverts)
      | element htag hparts hentries hbody =>
        refine .element htag hparts (exists_forall₂_iff.mp ⟨_, hentries⟩) fun item hitem => ?_
        obtain ⟨node, hnode⟩ := exists_forall₂_iff.mp ⟨_, hbody⟩ item hitem
        exact ih item (hparts.mem_items hitem) node (read_eq_ok_iff.mp hnode)
    | atom v hv =>
      cases h with
      | text content => exact .text content
      | comment hparts => exact absurd hv hparts.items?_ne_none
      | element _ hparts => exact absurd hv hparts.items?_ne_none
  · intro h
    induction h with
    | text content => exact ⟨_, .text content⟩
    | comment hparts hconvertible =>
      exact ⟨_, .comment hparts (exists_toStandard_iff.mpr hconvertible)⟩
    | element htag hparts hentries _ ih =>
      obtain ⟨pairs, hpairs⟩ := exists_forall₂_iff.mpr hentries
      simp only [← read_eq_ok_iff] at ih
      obtain ⟨nodes, hnodes⟩ := exists_forall₂_iff.mpr ih
      exact ⟨_, .element htag hparts hpairs hnodes⟩

/-! ## What is written -/

theorem attributesText_of_entryReadsAs {entries : List Value} {pairs : List (Symbol × String)}
    (h : List.Forall₂ EntryReadsAs entries pairs) :
    Markup.attributesText (Value.attributesByName pairs) =
      String.join (entries.map entryMarkup) := by
  induction h with
  | nil => rfl
  | @cons entry a entries pairs hentry _ ih =>
    have hfirst : Markup.attributeText a.1.name a.2 = entryMarkup entry := by
      rw [Markup.attributeText, ← Value.escapedText_eq_escape]
      cases hentry <;> rfl
    rw [List.map_cons, String.join_cons, ← ih, ← hfirst]
    rfl

/-- The markup of the node that a value is read as is the one of the single pass. -/
theorem markup_eq_directMarkup {v : Value} {n : Node} (h : read v = .ok n) :
    n.markup = directMarkup v := by
  induction v using Value.slotInduction generalizing n with
  | sequence kind items ih =>
    cases read_eq_ok_iff.mp h with
    | comment hparts _ =>
      rw [directMarkup_of_hasParts hparts, listMarkup, if_pos rfl, Node.markup]
      rfl
    | @element _ tag attributes body pairs nodes htag hparts hentries hbody =>
      have hall := Node.markupAll_of_forall₂ hbody fun item hitem node hnode =>
        ih item (hparts.mem_items hitem) hnode
      have hattributes := attributesText_of_entryReadsAs hentries
      have hcomment : tag ≠ .comment := fun heq => htag (.inr heq)
      rw [directMarkup_of_hasParts hparts, listMarkup, if_neg hcomment, ← hall, ← hattributes]
      -- The node has children exactly when the body has items.
      cases hbody with
      | nil => rw [Node.markup, List.isEmpty_nil, if_pos rfl]
      | cons hnode hnodes =>
        rw [Node.markup_element_of_ne_nil _ _ (List.cons_ne_nil _ _), List.isEmpty_cons,
          if_neg Bool.false_ne_true]
  | atom v hv =>
    cases read_eq_ok_iff.mp h with
    | text content => rw [Node.markup, directMarkup, Value.escapedText_eq_escape]
    | comment hparts => exact absurd hv hparts.items?_ne_none
    | element _ hparts => exact absurd hv hparts.items?_ne_none

/-- A list with the head of raw text is not well formed, whatever follows. -/
theorem not_wellFormed_rawString (kind : SequenceKind) (rest : List Value) :
    ¬ WellFormed (.sequence kind (.symbol .rawString :: rest)) := by
  intro h
  cases h with
  | comment hparts => exact absurd hparts.head?_items (by simp)
  | element htag hparts => exact htag (.inl (by simpa [eq_comm] using hparts.head?_items))

/-- A value can be converted exactly when it is convertible. It can be written as markup exactly
when it is well formed, and what is written is the markup of the single pass. -/
theorem exists_toStandard_iff_and_toMarkup_eq_ok_iff :
    (∀ v, (∃ w, toStandard v = .ok w) ↔ Convertible v) ∧
    (∀ v s, toMarkup v = .ok s ↔ WellFormed v ∧ s = directMarkup v) ∧
    ∀ kind rest s, toMarkup (.sequence kind (.symbol .rawString :: rest)) ≠ .ok s := by
  have hmarkup : ∀ v s, toMarkup v = .ok s ↔ WellFormed v ∧ s = directMarkup v := by
    intro v s
    rw [toMarkup_eq_map_read, map_eq_ok_iff, ← exists_read_iff]
    constructor
    · rintro ⟨n, hn, rfl⟩
      exact ⟨⟨n, hn⟩, markup_eq_directMarkup hn⟩
    · rintro ⟨⟨n, hn⟩, rfl⟩
      exact ⟨n, hn, markup_eq_directMarkup hn⟩
  refine ⟨fun v => exists_toStandard_iff, hmarkup, fun kind rest s h => ?_⟩
  exact not_wellFormed_rawString kind rest ((hmarkup _ s).mp h).1

example :
    directMarkup (.list [.symbol ⟨"p", by decide⟩,
      .list [.symbol .attributeList, .list [.symbol ⟨"id", by decide⟩, .text "x"],
        .tuple [.symbol ⟨"hidden", by decide⟩, .null]],
      .text "a&b", .tuple [.symbol .attributeList], .list [.symbol .comment, .text "c"]]) =
    "<p id=\"x\" hidden=\"hidden\">a&amp;b<@/><!-- c --></p>" := by decide

end MarkupTree.Sxml

import MarkupTree.Proofs.Escaping
import MarkupTree.Proofs.NodeTree
import Mathlib.Data.List.Chain

/-!
# Normal form of the texts among children

Markup does not show where one text ends and the next one begins, nor a text that is empty.
`normalize` merges the adjacent texts of every list of children and leaves out the empty ones. One
empty text is kept where nothing else is left, because an element with an empty text does not close
itself.

* `markup_normalize`: a node and its normal form are written alike;
* `normal_normalize`: in a normal form no two texts are adjacent, and a text is empty only where it
  is an only child.
-/

namespace MarkupTree.Node

/-! ## Normalization -/

/-- Whether a node is a text. -/
def isText : Node → Bool
  | .text _ => true
  | _ => false

/-- Puts a node in front of a list; two texts that come to stand side by side become one. -/
def consMerged : Node → List Node → List Node
  | .text s, .text t :: ns => .text (s ++ t) :: ns
  | n, ns => n :: ns

/-- Merges every maximal run of adjacent texts into one text. -/
def mergeTexts (ns : List Node) : List Node := ns.foldr consMerged []

/-- Leaves out the empty texts. -/
def dropEmptyTexts (ns : List Node) : List Node := ns.filter fun n => n ≠ .text ""

/-- A list of children with its texts merged and the empty ones left out; where there is nothing but
empty texts, one of them is kept. -/
def normalizeTexts (ns : List Node) : List Node :=
  if ns ≠ [] ∧ ∀ n ∈ ns, n = .text "" then [.text ""] else dropEmptyTexts (mergeTexts ns)

mutual

/-- A node with the texts of every list of children in normal form. -/
def normalize : Node → Node
  | .element tag attributes children =>
    .element tag attributes (normalizeTexts (normalizeAll children))
  | .text content => .text content
  | .raw content => .raw content
  | .comment content => .comment content

/-- The nodes of a list in normal form, each by itself. -/
def normalizeAll : List Node → List Node
  | [] => []
  | n :: ns => n.normalize :: normalizeAll ns

end

@[simp] theorem normalizeAll_eq_map (ns : List Node) : normalizeAll ns = ns.map normalize := by
  induction ns with
  | nil => rfl
  | cons n ns ih => rw [normalizeAll, ih, List.map_cons]

/-- An element is normalized by normalizing its children, and then the texts among them. -/
theorem normalize_element (tag : String) (attributes : List (String × String))
    (children : List Node) :
    (element tag attributes children).normalize =
      .element tag attributes (normalizeTexts (children.map normalize)) := by
  rw [normalize, normalizeAll_eq_map]

/-! ## Normalization and markup -/

/-- Merging two texts keeps the markup. -/
theorem markupAll_consMerged (n : Node) (ns : List Node) :
    markupAll (consMerged n ns) = n.markup ++ markupAll ns := by
  fun_cases consMerged n ns
  · next s t ns =>
    have hescape : Markup.escape (s ++ t) = Markup.escape s ++ Markup.escape t := by
      simp only [Markup.escape, String.toList_append, Markup.escapeChars_append,
        String.ofList_append]
    rw [markupAll_cons, markupAll_cons, markup, markup, markup, hescape, String.append_assoc]
  · rw [markupAll_cons]

/-- Merging all texts that are next to each other keeps the markup. -/
theorem markupAll_mergeTexts (ns : List Node) : markupAll (mergeTexts ns) = markupAll ns := by
  induction ns with
  | nil => rfl
  | cons n ns ih =>
    rw [mergeTexts, List.foldr_cons, markupAll_consMerged, markupAll_cons, ← ih, mergeTexts]

/-- Dropping texts without characters keeps the markup. -/
theorem markupAll_dropEmptyTexts (ns : List Node) :
    markupAll (dropEmptyTexts ns) = markupAll ns := by
  induction ns with
  | nil => rfl
  | cons n ns ih =>
    rw [dropEmptyTexts] at ih ⊢
    by_cases hn : n = .text ""
    · subst hn
      rw [List.filter_cons_of_neg (by simp), ih, markupAll_cons, markup, Markup.escape_empty,
        String.empty_append]
    · rw [List.filter_cons_of_pos (by simp [hn]), markupAll_cons, markupAll_cons, ih]

/-- Merging makes no node into an empty text that was not one. -/
theorem eq_empty_of_mem_consMerged {n : Node} {ns : List Node}
    (h : ∀ m ∈ consMerged n ns, m = .text "") : n = .text "" ∧ ∀ m ∈ ns, m = .text "" := by
  revert h
  fun_cases consMerged n ns
  · next s t ns =>
    intro h
    obtain ⟨hst, hns⟩ := List.forall_mem_cons.mp h
    obtain ⟨rfl, rfl⟩ := String.append_eq_empty_iff.mp (Node.text.inj hst)
    exact ⟨rfl, List.forall_mem_cons.mpr ⟨rfl, hns⟩⟩
  · exact List.forall_mem_cons.mp

/-- Merging makes an empty text of empty texts only. -/
theorem eq_empty_of_mem_mergeTexts {ns : List Node} (h : ∀ m ∈ mergeTexts ns, m = .text "") :
    ∀ n ∈ ns, n = .text "" := by
  induction ns with
  | nil => simp
  | cons n ns ih =>
    obtain ⟨hn, hns⟩ := eq_empty_of_mem_consMerged h
    exact List.forall_mem_cons.mpr ⟨hn, ih hns⟩

/-- A list of children is as empty as its normal form. -/
theorem normalizeTexts_eq_nil_iff {ns : List Node} : normalizeTexts ns = [] ↔ ns = [] := by
  constructor
  · intro h
    by_contra hns
    -- A list that merging and leaving out empties holds empty texts only, and one of them is kept.
    rw [normalizeTexts] at h
    split at h
    · cases h
    · next hempty =>
      refine hempty ⟨hns, eq_empty_of_mem_mergeTexts fun m hm => ?_⟩
      simpa using List.filter_eq_nil_iff.mp h m hm
  · rintro rfl
    rfl

/-- So both steps together keep the markup. -/
theorem markupAll_normalizeTexts (ns : List Node) :
    markupAll (normalizeTexts ns) = markupAll ns := by
  rw [normalizeTexts]
  split
  · next h =>
    -- One empty text is written like any number of them: like nothing.
    have hdrop : dropEmptyTexts ns = [] := by
      refine List.filter_eq_nil_iff.mpr fun n hn => ?_
      simp [h.2 n hn]
    rw [← markupAll_dropEmptyTexts ns, hdrop, ← markupAll_dropEmptyTexts [.text ""]]
    rfl
  · rw [markupAll_dropEmptyTexts, markupAll_mergeTexts]

/-- A node and its normal form are written alike. -/
theorem markup_normalize (n : Node) : n.normalize.markup = n.markup := by
  induction n using treeInduction with
  | text content => rw [normalize]
  | raw content => rw [normalize]
  | comment content => rw [normalize]
  | element tag attributes children ih =>
    rw [normalize_element]
    -- The children are written alike, and the element closes itself in both cases or in none.
    apply markup_element_congr
    · rw [markupAll_normalizeTexts, markupAll_map_congr ih]
    · rw [normalizeTexts_eq_nil_iff, List.map_eq_nil_iff]

/-! ## Normal forms -/

/-- No two adjacent nodes are texts. -/
def Separated (ns : List Node) : Prop :=
  ns.IsChain fun m n => ¬ (m.isText ∧ n.isText)

/-- A list of nodes in which each text shows, and no text is adjacent to another one. -/
structure Tidy (ns : List Node) : Prop where
  /-- No two texts are adjacent. -/
  separated : Separated ns
  /-- No text is empty. -/
  ne_empty : ∀ n ∈ ns, n ≠ .text ""

/-- A list of children that is tidy, or holds one empty text and nothing else. -/
def TidyContent (ns : List Node) : Prop := ns = [.text ""] ∨ Tidy ns

/-- A node in which every list of children is tidy, or a single empty text. -/
inductive Normal : Node → Prop
  /-- A text. -/
  | text (content) : Normal (.text content)
  /-- Raw text. -/
  | raw (content) : Normal (.raw content)
  /-- A comment. -/
  | comment (content) : Normal (.comment content)
  /-- An element with its children. -/
  | element (tag attributes) {children} (htidy : TidyContent children)
      (hchildren : ∀ child ∈ children, Normal child) : Normal (.element tag attributes children)

/-- A node that is merged with the first of the others leaves no two texts in a row. -/
theorem separated_consMerged (n : Node) {ns : List Node} (h : Separated ns) :
    Separated (consMerged n ns) := by
  fun_cases consMerged n ns
  · next s t ns =>
    have hhead : ∀ {m : Node}, ¬ ((text t).isText ∧ m.isText) →
        ¬ ((text (s ++ t)).isText ∧ m.isText) := fun h => h
    exact List.IsChain.imp_head hhead h
  · next hmerge =>
    refine List.isChain_cons.mpr ⟨?_, h⟩
    rintro m hm ⟨hntext, hmtext⟩
    obtain ⟨ns', rfl⟩ := List.head?_eq_some_iff.mp hm
    -- Two texts would have been merged.
    cases n with
    | text s =>
      cases m with
      | text t => exact hmerge s t ns' rfl rfl
      | _ => cases hmtext
    | _ => cases hntext

/-- After merging no two texts are next to each other. -/
theorem separated_mergeTexts (ns : List Node) : Separated (mergeTexts ns) := by
  induction ns with
  | nil => exact List.isChain_nil
  | cons n ns ih => exact separated_consMerged n ih

/-- Leaving out an empty text brings no two texts together, since none was next to it. -/
theorem separated_cons_dropEmptyTexts {n : Node} {ns : List Node} (h : Separated (n :: ns)) :
    Separated (n :: dropEmptyTexts ns) := by
  induction ns generalizing n with
  | nil => exact h
  | cons m ns ih =>
    obtain ⟨hnm, hrest⟩ := List.isChain_cons_cons.mp h
    -- Where an empty text is left out, `n` is no text, so any node may come to stand behind it.
    by_cases hm : m = .text ""
    · subst hm
      rw [dropEmptyTexts, List.filter_cons_of_neg (by simp)]
      have hn : ¬ n.isText := fun hn => hnm ⟨hn, rfl⟩
      exact List.IsChain.imp_head (fun _ hpair => hn hpair.1) (ih hrest)
    · rw [dropEmptyTexts, List.filter_cons_of_pos (by simp [hm])]
      exact List.isChain_cons_cons.mpr ⟨hnm, ih hrest⟩

/-- Dropping empty texts leaves none and brings no two texts together. -/
theorem tidy_dropEmptyTexts {ns : List Node} (h : Separated ns) : Tidy (dropEmptyTexts ns) := by
  refine ⟨?_, fun n hn => by simpa using (List.mem_filter.mp hn).2⟩
  -- A comment in front is no text, so the list may be taken as what follows it.
  have hcons : Separated (.comment "" :: ns) := by
    refine List.isChain_cons.mpr ⟨?_, h⟩
    rintro m _ ⟨hcomment, -⟩
    cases hcomment
  exact (List.isChain_cons.mp (separated_cons_dropEmptyTexts hcons)).2

/-- All that merging makes are texts. -/
theorem mem_of_mem_consMerged {m n : Node} {ns : List Node} (h : m ∈ consMerged n ns) :
    m ∈ n :: ns ∨ m.isText := by
  revert h
  fun_cases consMerged n ns
  · intro h
    rcases List.mem_cons.mp h with rfl | h
    · exact .inr rfl
    · exact .inl (List.mem_cons_of_mem _ (List.mem_cons_of_mem _ h))
  · exact .inl

/-- Every node of a merged list is a text or one of the nodes of the list. -/
theorem mem_of_mem_mergeTexts {m : Node} {ns : List Node} (h : m ∈ mergeTexts ns) :
    m ∈ ns ∨ m.isText := by
  induction ns with
  | nil => cases h
  | cons n ns ih =>
    rcases mem_of_mem_consMerged h with h | h
    · rcases List.mem_cons.mp h with rfl | h
      · exact .inl List.mem_cons_self
      · exact (ih h).imp_left (List.mem_cons_of_mem n)
    · exact .inr h

/-- What holds of every text and of the nodes of a list holds of the nodes of its normal form. -/
theorem forall_mem_normalizeTexts {P : Node → Prop} {ns : List Node}
    (htext : ∀ content, P (.text content)) (h : ∀ n ∈ ns, P n) : ∀ n ∈ normalizeTexts ns, P n := by
  intro n hn
  rw [normalizeTexts] at hn
  split at hn
  -- Only the empty text is left.
  · rw [List.mem_singleton.mp hn]
    exact htext ""
  · rcases mem_of_mem_mergeTexts (List.mem_filter.mp hn).1 with hmem | hisText
    · exact h n hmem
    · cases n with
      | text content => exact htext content
      | _ => cases hisText

/-- Normalization yields a normal form. -/
theorem normal_normalize (n : Node) : n.normalize.Normal := by
  induction n using treeInduction with
  | text content => rw [normalize]; exact .text content
  | raw content => rw [normalize]; exact .raw content
  | comment content => rw [normalize]; exact .comment content
  | element tag attributes children ih =>
    rw [normalize_element]
    -- Merging separates the texts, and then the empty ones can go.
    refine .element tag attributes ?_ ?_
    · rw [normalizeTexts]
      split
      · exact .inl rfl
      · exact .inr (tidy_dropEmptyTexts (separated_mergeTexts _))
    · exact forall_mem_normalizeTexts .text (List.forall_mem_map.mpr ih)

end MarkupTree.Node

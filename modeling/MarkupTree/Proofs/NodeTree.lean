import MarkupTree.Markup
import Mathlib.Data.List.Forall2

/-!
# Induction over node trees

Elements hold a list of nodes, so a proof about all nodes assumes the statement for every child.
`Everywhere` turns a property of single nodes into one of whole trees. The module also says how the
markup of a list of nodes depends on the nodes.
-/

namespace MarkupTree.Node

/-- Induction over a node and, for an element, over its children. -/
@[elab_as_elim]
theorem treeInduction {P : Node → Prop}
    (text : ∀ content, P (.text content)) (raw : ∀ content, P (.raw content))
    (comment : ∀ content, P (.comment content))
    (element : ∀ tag attributes children, (∀ child ∈ children, P child) →
      P (.element tag attributes children)) : ∀ n, P n
  | .text content => text content
  | .raw content => raw content
  | .comment content => comment content
  | .element tag attributes children =>
    element tag attributes children fun child _ =>
      treeInduction text raw comment element child

/-! ## Properties of whole trees -/

mutual

/-- A property of a node and of all nodes below it. -/
def Everywhere (P : Node → Prop) : Node → Prop
  | .text content => P (.text content)
  | .raw content => P (.raw content)
  | .comment content => P (.comment content)
  | .element tag attributes children =>
    P (.element tag attributes children) ∧ EverywhereAll P children

/-- A property of the nodes of a list and of all nodes below them. -/
def EverywhereAll (P : Node → Prop) : List Node → Prop
  | [] => True
  | n :: ns => n.Everywhere P ∧ EverywhereAll P ns

end

theorem everywhereAll_iff {P : Node → Prop} {ns : List Node} :
    EverywhereAll P ns ↔ ∀ n ∈ ns, n.Everywhere P := by
  induction ns with
  | nil => simp [EverywhereAll]
  | cons n ns ih => rw [EverywhereAll, ih, List.forall_mem_cons]

theorem everywhere_element_iff {P : Node → Prop} {tag : String}
    {attributes : List (String × String)} {children : List Node} :
    (element tag attributes children).Everywhere P ↔
      P (.element tag attributes children) ∧ ∀ child ∈ children, child.Everywhere P := by
  rw [Everywhere, everywhereAll_iff]

theorem Everywhere.imp {P Q : Node → Prop} (hPQ : ∀ n, P n → Q n) {n : Node}
    (h : n.Everywhere P) : n.Everywhere Q := by
  induction n using treeInduction with
  | element tag attributes children ih =>
    obtain ⟨helement, hchildren⟩ := everywhere_element_iff.mp h
    refine everywhere_element_iff.mpr ⟨hPQ _ helement, fun child hchild => ?_⟩
    exact ih child hchild (hchildren child hchild)
  | _ => exact hPQ _ h

/-! ## Markup of a list -/

theorem markupAll_cons (n : Node) (ns : List Node) :
    markupAll (n :: ns) = n.markup ++ markupAll ns := by
  rw [markupAll]

/-- Lists of nodes that are written alike one by one are written alike. -/
theorem markupAll_map_congr {f : Node → Node} {ns : List Node}
    (h : ∀ n ∈ ns, (f n).markup = n.markup) : markupAll (ns.map f) = markupAll ns := by
  induction ns with
  | nil => rfl
  | cons n ns ih =>
    obtain ⟨hn, hns⟩ := List.forall_mem_cons.mp h
    rw [List.map_cons, markupAll_cons, markupAll_cons, hn, ih hns]

/-- Nodes that correspond to other things are written one after the other as these are. -/
theorem markupAll_of_forall₂ {α : Type} {R : α → Node → Prop} {f : α → String} {as : List α}
    {ns : List Node} (h : List.Forall₂ R as ns) (hf : ∀ a ∈ as, ∀ n, R a n → n.markup = f a) :
    markupAll ns = String.join (as.map f) := by
  induction h with
  | nil => rfl
  | cons hn _ ih =>
    obtain ⟨hfirst, hrest⟩ := List.forall_mem_cons.mp hf
    rw [markupAll_cons, List.map_cons, String.join_cons, hfirst _ hn, ih hrest]

/-- The markup of an element depends on the markup of its children, and on whether there are any. -/
theorem markup_element_congr (tag : String) (attributes : List (String × String))
    {children children' : List Node} (h : markupAll children = markupAll children')
    (hnil : children = [] ↔ children' = []) :
    (element tag attributes children).markup = (element tag attributes children').markup := by
  by_cases hchildren : children = []
  · rw [hchildren, hnil.mp hchildren]
  · rw [markup_element_of_ne_nil tag attributes hchildren,
      markup_element_of_ne_nil tag attributes fun h' => hchildren (hnil.mpr h'), h]

end MarkupTree.Node

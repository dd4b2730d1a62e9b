import MarkupTree.Proofs.Documented
import MarkupTree.Proofs.FirstFailure
import MarkupTree.Proofs.NodeTree
import MarkupTree.Record

/-!
# Records of nodes

What can be done with the record of a node: it can be dumped (`dump_ofNode`), which leaves no
records at any depth, and it can be written, which comes to the markup of the node without a refusal
(`write_ofNode`).
-/

namespace MarkupTree

/-- The tag of an element is not empty. -/
def Node.HasTag : Node → Prop
  | .element tag _ _ => tag ≠ ""
  | _ => True

namespace Schema

/-! ## Nodes of records -/

/-- The nodes of records that were made from nodes are these nodes, if that is so one by one. -/
theorem toNodes?_map_ofNode {ns : List Node} (h : ∀ n ∈ ns, (Datum.ofNode n).toNode? = some n) :
    Datum.toNodes? (ns.map Datum.ofNode) = some ns := by
  induction ns with
  | nil => rfl
  | cons n ns ih =>
    obtain ⟨hn, hns⟩ := List.forall_mem_cons.mp h
    rw [List.map_cons, Datum.toNodes?, hn, ih hns]
    rfl

/-- The attributes of a record that was made from attributes are these attributes. -/
theorem mapM_toAttribute?_map (attributes : List (String × String)) :
    (attributes.map attributeDatum).mapM Datum.toAttribute? = some attributes := by
  induction attributes with
  | nil => rfl
  | cons attr attributes ih =>
    rw [List.map_cons, List.mapM_cons, ih]
    rfl

/-- The node of a record that was made from a node is this node. -/
theorem toNode?_ofNode (n : Node) : (Datum.ofNode n).toNode? = some n := by
  induction n using Node.treeInduction with
  | element tag attributes children ih =>
    rw [Datum.ofNode, Datum.ofNodes_eq_map, elementRecord, Datum.toNode?, mapM_toAttribute?_map,
      toNodes?_map_ofNode ih]
    rfl
  | _ => rfl

/-! ## Documents of nodes -/

/-- What a record with a text is dumped as. -/
def textDocument (kind : NodeKind) (content : String) : Datum :=
  .mapping [("kind", .text kind.name), ("text", .text content)]

/-- What the record of an element is dumped as, if this is what its children are dumped as. -/
def elementDocument (tag : String) (attributes : List (String × String)) (children : List Datum) :
    Datum :=
  .mapping [("kind", .text NodeKind.element.name), ("tag", .text tag),
    ("attributes", .list (attributes.map attributeDatum)), ("children", .list children)]

mutual

/-- What the record of a node is dumped as. -/
def documentOf : Node → Datum
  | .text content => textDocument .text content
  | .raw content => textDocument .raw content
  | .comment content => textDocument .comment content
  | .element tag attributes children => elementDocument tag attributes (documentsOf children)

/-- What the records of nodes are dumped as. -/
def documentsOf : List Node → List Datum
  | [] => []
  | n :: ns => documentOf n :: documentsOf ns

end

@[simp] theorem documentsOf_eq_map (ns : List Node) : documentsOf ns = ns.map documentOf := by
  induction ns with
  | nil => rfl
  | cons n ns ih => simp [documentsOf, ih]

/-! ## Dumping -/

namespace Library.DocumentedOn

variable {lib : Library} {scope : Datum → Prop} (h : lib.DocumentedOn scope)

include h

/-- A record with a text is taken apart into its two fields. -/
theorem dump_textRecord {kind : NodeKind} {content : String}
    (hscope : scope (textRecord kind content)) :
    lib.dump (textRecord kind content) = textDocument kind content := by
  rw [textRecord, h.dump_record hscope]
  simp only [List.map_cons, List.map_nil, h.dump_text]
  rfl

/-- Attributes are dumped as they are. -/
theorem dump_attributes {attributes : List (String × String)}
    (hscope : scope (.list (attributes.map attributeDatum))) :
    lib.dump (.list (attributes.map attributeDatum)) = .list (attributes.map attributeDatum) := by
  rw [h.dump_list hscope, List.map_map]
  refine congrArg Datum.list (List.map_congr_left fun attr hattr => ?_)
  have hitem : scope (attributeDatum attr) := h.item hscope rfl (List.mem_map_of_mem hattr)
  rw [Function.comp, attributeDatum, h.dump_tuple hitem]
  simp only [List.map_cons, List.map_nil, h.dump_text]

/-- The record of a node is taken apart down to its leaves. -/
theorem dump_ofNode {n : Node} (hscope : scope (.ofNode n)) :
    lib.dump (.ofNode n) = documentOf n := by
  induction n using Node.treeInduction with
  | element tag attributes children ih =>
    rw [Datum.ofNode, Datum.ofNodes_eq_map] at hscope ⊢
    have hfields : scope (.list (attributes.map attributeDatum)) ∧
        scope (.list (children.map Datum.ofNode)) := by
      have hfield {name : String} {d : Datum} := @h.field _ _ (name, d) hscope
      exact ⟨@hfield "attributes" _ (by simp), @hfield "children" _ (by simp)⟩
    have hchildren : (children.map Datum.ofNode).map lib.dump = children.map documentOf := by
      rw [List.map_map]
      refine List.map_congr_left fun child hchild => ih child hchild ?_
      exact h.item hfields.2 rfl (List.mem_map_of_mem hchild)
    rw [elementRecord, h.dump_record hscope]
    simp only [List.map_cons, List.map_nil, h.dump_text, h.dump_attributes hfields.1,
      h.dump_list hfields.2, hchildren]
    rw [documentOf, documentsOf_eq_map]
    rfl
  | _ =>
    rw [Datum.ofNode] at hscope ⊢
    rw [h.dump_textRecord hscope, documentOf]

end Library.DocumentedOn

end Schema

/-! ## Writing -/

namespace Record

open Schema

/-- The attributes of a record are those that it was made from. -/
theorem mapM_attributeOf_map (attributes : List (String × String)) :
    (attributes.map attributeDatum).mapM attributeOf = .ok attributes :=
  mapM_map_eq_ok_self fun _ _ => rfl

/-- Records are written one by one. -/
theorem writeAll_eq_mapM (ds : List Datum) : writeAll ds = ds.mapM write := by
  induction ds with
  | nil => rfl
  | cons d ds ih => rw [writeAll, ih, List.mapM_cons]

/-- An element is written from its fields once its children are written. -/
theorem write_elementRecord (tag : String) (attributes : List (String × String))
    {children : List Datum} {parts : List String} (h : writeAll children = .ok parts) :
    write (elementRecord tag attributes children) = .ok (elementMarkup tag attributes parts) := by
  have hclass : NodeKind.ofClassName? NodeKind.element.className = some .element :=
    NodeKind.ofClassName?_className .element
  have hchildren : writeChildren [("kind", .text NodeKind.element.name), ("tag", .text tag),
      ("attributes", .list (attributes.map attributeDatum)), ("children", .list children)] =
        .ok parts := by
    simp [writeChildren, h]
  rw [elementRecord, write, hclass]
  simp only [hchildren]
  show (do
    let attributes ← (attributes.map attributeDatum).mapM attributeOf
    return elementMarkup tag attributes parts) = _
  rw [mapM_attributeOf_map]
  rfl

/-- Written children are put together as the children of a node are. -/
theorem elementMarkup_map_markup (tag : String) (attributes : List (String × String))
    (children : List Node) :
    elementMarkup tag attributes (children.map Node.markup) =
      (Node.element tag attributes children).markup := by
  by_cases hchildren : children = []
  · subst hchildren
    rfl
  · have hsame : List.Forall₂ Eq children children := List.forall₂_refl children
    have hmarkup : Node.markupAll children = String.join (children.map Node.markup) :=
      Node.markupAll_of_forall₂ hsame fun _ _ _ h => by rw [h]
    rw [Node.markup_element_of_ne_nil tag attributes hchildren, hmarkup]
    -- Even children that are written as nothing keep the tags apart.
    exact if_neg (by simpa using hchildren)

/-- The record of a node is written, down to its leaves, as the node is. -/
theorem write_ofNode (n : Node) : write (.ofNode n) = .ok n.markup := by
  induction n using Node.treeInduction with
  | element tag attributes children ih =>
    have hchildren : writeAll (children.map Datum.ofNode) = .ok (children.map Node.markup) := by
      rw [writeAll_eq_mapM]
      exact mapM_map_eq_ok_map ih
    -- Each child is a record of its own, whose class is found out again.
    rw [Datum.ofNode, Datum.ofNodes_eq_map, ← elementMarkup_map_markup]
    exact write_elementRecord tag attributes hchildren
  | _ =>
    rw [Datum.ofNode, textRecord, write, NodeKind.ofClassName?_className]
    rfl

end Record

end MarkupTree

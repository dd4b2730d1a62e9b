import MarkupTree.Proofs.Escaping
import MarkupTree.Proofs.NodeTree
import MarkupTree.Proofs.Template

/-!
# Shapes of nodes

The shape of a node is what is left of it when its texts and the values of its attributes are taken
out. Those are its payloads, in document order; a node is its shape filled with its payloads
(`fill_shape_payloads`). The markup of all nodes of one shape follows one template, with the escaped
payloads in its holes (`markup_fill`), and an escaped payload holds no delimiter, so the delimiters
in the markup of a node are those of its shape.
-/

namespace MarkupTree

/-- A node without its texts and the values of its attributes. -/
inductive Shape where
  /-- A text. -/
  | text
  /-- Raw text with its content. -/
  | raw (content : String)
  /-- A comment with its content. -/
  | comment (content : String)
  /-- An element with the names of its attributes in order. -/
  | element (tag : String) (names : List String) (children : List Shape)

namespace Shape

mutual

/-- The number of texts and attribute values that are left open. -/
def holes : Shape → Nat
  | .text => 1
  | .raw _ | .comment _ => 0
  | .element _ names children => names.length + holesAll children

/-- The number of holes in a list of shapes. -/
def holesAll : List Shape → Nat
  | [] => 0
  | first :: rest => first.holes + holesAll rest

end

mutual

/-- The node of a shape with the given payloads, in document order. -/
def fill : Shape → (payloads : List String) → Node
  | .text, payloads => .text (payloads.headD "")
  | .raw content, _ => .raw content
  | .comment content, _ => .comment content
  | .element tag names children, payloads =>
    .element tag (names.zip (payloads.take names.length))
      (fillAll children (payloads.drop names.length))

/-- The nodes of a list of shapes, the payloads shared out among them from left to right. -/
def fillAll : List Shape → (payloads : List String) → List Node
  | [], _ => []
  | first :: rest, payloads =>
    first.fill (payloads.take first.holes) :: fillAll rest (payloads.drop first.holes)

end

/-- The template of attributes with the given names. -/
def attributesTemplate : List String → Template
  | [] => .last ""
  | name :: names => .hole (" " ++ name ++ "=\"") ((attributesTemplate names).prepend "\"")

mutual

/-- What the nodes of a shape have in common when they are written. -/
def template : Shape → Template
  | .text => .hole "" (.last "")
  | .raw content => .last content
  | .comment content => .last ("<!-- " ++ content ++ " -->")
  | .element tag names [] => (attributesTemplate names ++ .last "/>").prepend ("<" ++ tag)
  | .element tag names (first :: rest) =>
    (attributesTemplate names ++ ((first.template ++ templateAll rest).prepend ">" ++
      .last ("</" ++ tag ++ ">"))).prepend ("<" ++ tag)

/-- The template of a list of shapes. -/
def templateAll : List Shape → Template
  | [] => .last ""
  | first :: rest => first.template ++ templateAll rest

end

/-! ## Sharing out the payloads -/

/-- Payloads for two shapes in a row are payloads for each of them. -/
theorem exists_append_of_length_eq_add {xs : List String} {m n : Nat} (h : xs.length = m + n) :
    ∃ ys zs, xs = ys ++ zs ∧ ys.length = m ∧ zs.length = n := by
  refine ⟨xs.take m, xs.drop m, (List.take_append_drop m xs).symm, ?_, ?_⟩
  · rw [List.length_take]
    omega
  · rw [List.length_drop]
    omega

/-- The first payloads of an element are the values of its attributes. -/
theorem fill_element_append (tag : String) {names : List String} (children : List Shape)
    {values : List String} (h : values.length = names.length) (payloads : List String) :
    (element tag names children).fill (values ++ payloads) =
      .element tag (names.zip values) (fillAll children payloads) := by
  rw [fill, List.take_left' h, List.drop_left' h]

/-- The first shape takes the payloads for its holes and leaves the others. -/
theorem fillAll_cons_append {first : Shape} {payloads : List String}
    (h : payloads.length = first.holes) (rest : List Shape) (payloads' : List String) :
    fillAll (first :: rest) (payloads ++ payloads') =
      first.fill payloads :: fillAll rest payloads' := by
  rw [fillAll, List.take_left' h, List.drop_left' h]

/-! ## The markup of a shape -/

/-- There is a hole for the value of each attribute. -/
theorem holes_attributesTemplate (names : List String) :
    (attributesTemplate names).holes = names.length := by
  induction names with
  | nil => rfl
  | cons name names ih =>
    rw [attributesTemplate, Template.holes, Template.holes_prepend, ih, List.length_cons]

mutual

/-- The template of a shape has the holes of the shape. -/
theorem holes_template : ∀ shape : Shape, shape.template.holes = shape.holes
  | .text => rfl
  | .raw _ => rfl
  | .comment _ => rfl
  | .element tag names [] => by
    rw [template, Template.holes_prepend, Template.holes_append, holes_attributesTemplate]
    rfl
  | .element tag names (first :: rest) => by
    have hchildren := holes_templateAll (first :: rest)
    rw [templateAll] at hchildren
    rw [template, Template.holes_prepend, Template.holes_append, Template.holes_append,
      Template.holes_prepend, hchildren, holes_attributesTemplate]
    rfl

/-- The template of shapes in a row has a hole for each of theirs. -/
theorem holes_templateAll : ∀ shapes : List Shape, (templateAll shapes).holes = holesAll shapes
  | [] => rfl
  | first :: rest => by
    rw [templateAll, Template.holes_append, holes_template first, holes_templateAll rest, holesAll]

end

/-- The text of the attributes is their template with the escaped values in its holes. -/
theorem attributesText_zip {names values : List String} (h : values.length = names.length) :
    Markup.attributesText (names.zip values) =
      (attributesTemplate names).render (values.map Markup.escape) := by
  induction names generalizing values with
  | nil => rfl
  | cons name names ih =>
    cases values with
    | nil => cases h
    | cons value values =>
      rw [List.zip_cons_cons, Markup.attributesText, Markup.attributeText,
        ih (Nat.succ.inj h), attributesTemplate, List.map_cons, Template.render,
        Template.render_prepend]
      simp only [String.append_assoc]

/-- The holes of the attributes are filled before those of what follows. -/
theorem render_attributesTemplate_append {names values : List String}
    (h : values.length = names.length) (t : Template) (payloads : List String) :
    (attributesTemplate names ++ t).render ((values ++ payloads).map Markup.escape) =
      Markup.attributesText (names.zip values) ++ t.render (payloads.map Markup.escape) := by
  have hlength : (values.map Markup.escape).length = (attributesTemplate names).holes := by
    rw [List.length_map, h, holes_attributesTemplate]
  rw [List.map_append, Template.render_append hlength, attributesText_zip h]

mutual

/-- Whatever the payloads are, the markup is the template with the escaped payloads in its holes. -/
theorem markup_fill : ∀ (shape : Shape) (payloads : List String),
    payloads.length = shape.holes →
    (shape.fill payloads).markup = shape.template.render (payloads.map Markup.escape)
  | .text, payloads, h => by
    -- The only payload is the content.
    obtain ⟨content, rfl⟩ := List.length_eq_one_iff.mp h
    simp [fill, Node.markup, template, Template.render]
  | .raw _, _, _ => rfl
  | .comment _, _, _ => rfl
  | .element tag names [], payloads, h => by
    obtain ⟨values, payloads, rfl, hvalues, -⟩ := exists_append_of_length_eq_add h
    -- All the holes are those of the attributes, and the last literal closes the element.
    rw [fill_element_append tag [] hvalues, fillAll, Node.markup, template,
      Template.render_prepend, render_attributesTemplate_append hvalues, Template.render,
      String.append_assoc]
  | .element tag names (first :: rest), payloads, h => by
    obtain ⟨values, payloads, rfl, hvalues, hpayloads⟩ := exists_append_of_length_eq_add h
    -- An element with children has nodes to be written between its tags.
    have hchildren := markupAll_fillAll (first :: rest) payloads hpayloads
    rw [templateAll] at hchildren
    have hne : fillAll (first :: rest) payloads ≠ [] := by
      rw [fillAll]
      exact List.cons_ne_nil _ _
    rw [fill_element_append tag (first :: rest) hvalues, Node.markup_element_of_ne_nil _ _ hne,
      hchildren, template, Template.render_prepend, render_attributesTemplate_append hvalues,
      Template.render_append_last, Template.render_prepend]
    simp only [String.append_assoc]

/-- The markup of shapes in a row is their template with the escaped payloads in its holes. -/
theorem markupAll_fillAll : ∀ (shapes : List Shape) (payloads : List String),
    payloads.length = holesAll shapes →
    Node.markupAll (fillAll shapes payloads) =
      (templateAll shapes).render (payloads.map Markup.escape)
  | [], _, _ => rfl
  | first :: rest, payloads, h => by
    obtain ⟨payloads, payloads', rfl, hfirst, hrest⟩ := exists_append_of_length_eq_add h
    rw [fillAll_cons_append hfirst, Node.markupAll_cons, markup_fill first payloads hfirst,
      markupAll_fillAll rest payloads' hrest, templateAll, List.map_append,
      Template.render_append (by rw [List.length_map, hfirst, holes_template])]

end

end Shape

/-! ## Every node is its shape with its payloads -/

namespace Node

mutual

/-- What is left of a node without its payloads. -/
def shape : Node → Shape
  | .text _ => .text
  | .raw content => .raw content
  | .comment content => .comment content
  | .element tag attributes children =>
    .element tag (attributes.map Prod.fst) (shapeAll children)

/-- The shapes of a list of nodes. -/
def shapeAll : List Node → List Shape
  | [] => []
  | first :: rest => first.shape :: shapeAll rest

end

mutual

/-- The texts and the attribute values of a node, in document order. -/
def payloads : Node → List String
  | .text content => [content]
  | .raw _ | .comment _ => []
  | .element _ attributes children => attributes.map Prod.snd ++ payloadsAll children

/-- The payloads of a list of nodes. -/
def payloadsAll : List Node → List String
  | [] => []
  | first :: rest => first.payloads ++ payloadsAll rest

end

mutual

/-- A node has a payload for each hole of its shape. -/
theorem length_payloads : ∀ n : Node, n.payloads.length = n.shape.holes
  | .text _ => rfl
  | .raw _ => rfl
  | .comment _ => rfl
  | .element tag attributes children => by
    rw [payloads, List.length_append, length_payloadsAll children, shape, Shape.holes,
      List.length_map, List.length_map]

/-- So do nodes in a row. -/
theorem length_payloadsAll : ∀ ns : List Node,
    (payloadsAll ns).length = Shape.holesAll (shapeAll ns)
  | [] => rfl
  | first :: rest => by
    rw [payloadsAll, List.length_append, length_payloads first, length_payloadsAll rest, shapeAll,
      Shape.holesAll]

end

mutual

/-- A node is its shape filled with its payloads. -/
theorem fill_shape_payloads : ∀ n : Node, n.shape.fill n.payloads = n
  | .text _ => rfl
  | .raw _ => rfl
  | .comment _ => rfl
  | .element tag attributes children => by
    have hlength : (attributes.map Prod.snd).length = (attributes.map Prod.fst).length := by
      rw [List.length_map, List.length_map]
    -- The names and the values are zipped to the attributes that they were taken from.
    rw [shape, payloads, Shape.fill_element_append tag _ hlength, ← List.zip_of_prod rfl rfl,
      fillAll_shapeAll_payloadsAll children]

/-- Nodes in a row are their shapes filled with their payloads. -/
theorem fillAll_shapeAll_payloadsAll : ∀ ns : List Node,
    Shape.fillAll (shapeAll ns) (payloadsAll ns) = ns
  | [] => rfl
  | first :: rest => by
    rw [shapeAll, payloadsAll, Shape.fillAll_cons_append (length_payloads first),
      fill_shape_payloads first, fillAll_shapeAll_payloadsAll rest]

end

end Node

namespace Shape

mutual

/-- Filling a shape gives a node of that shape with the given payloads. -/
theorem shape_fill_and_payloads_fill : ∀ (shape : Shape) (payloads : List String),
    payloads.length = shape.holes →
    (shape.fill payloads).shape = shape ∧ (shape.fill payloads).payloads = payloads
  | .text, payloads, h => by
    obtain ⟨content, rfl⟩ := List.length_eq_one_iff.mp h
    exact ⟨rfl, rfl⟩
  | .raw _, payloads, h => ⟨rfl, (List.length_eq_zero_iff.mp h).symm⟩
  | .comment _, payloads, h => ⟨rfl, (List.length_eq_zero_iff.mp h).symm⟩
  | .element tag names children, payloads, h => by
    obtain ⟨values, payloads, rfl, hvalues, hpayloads⟩ := exists_append_of_length_eq_add h
    obtain ⟨hshape, hpayloads⟩ :=
      shapeAll_fillAll_and_payloadsAll_fillAll children payloads hpayloads
    rw [fill_element_append tag children hvalues, Node.shape, Node.payloads,
      List.map_fst_zip (Nat.le_of_eq hvalues.symm), List.map_snd_zip (Nat.le_of_eq hvalues), hshape,
      hpayloads]
    exact ⟨rfl, rfl⟩

theorem shapeAll_fillAll_and_payloadsAll_fillAll : ∀ (shapes : List Shape) (payloads : List String),
    payloads.length = holesAll shapes →
    Node.shapeAll (fillAll shapes payloads) = shapes ∧
      Node.payloadsAll (fillAll shapes payloads) = payloads
  | [], payloads, h => ⟨rfl, (List.length_eq_zero_iff.mp h).symm⟩
  | first :: rest, payloads, h => by
    obtain ⟨payloads, payloads', rfl, hfirst, hrest⟩ := exists_append_of_length_eq_add h
    obtain ⟨hshape, hpayloads⟩ := shape_fill_and_payloads_fill first payloads hfirst
    obtain ⟨hshapes, hpayloads'⟩ := shapeAll_fillAll_and_payloadsAll_fillAll rest payloads' hrest
    rw [fillAll_cons_append hfirst, Node.shapeAll, Node.payloadsAll, hshape, hpayloads, hshapes,
      hpayloads']
    exact ⟨rfl, rfl⟩

end

end Shape

/-! ## Delimiters -/

namespace Node

/-- The delimiters in the markup of a node are those of the literals of its shape. -/
theorem filter_delimiters_markup (n : Node) :
    n.markup.toList.filter (· ∈ Markup.delimiters) =
      n.shape.template.literals.flatMap fun s => s.toList.filter (· ∈ Markup.delimiters) := by
  -- What is put into the holes are escaped texts.
  have hescaped : ∀ x ∈ n.payloads.map Markup.escape, ∀ c ∈ x.toList,
      ¬ decide (c ∈ Markup.delimiters) := by
    intro x hx c hc
    obtain ⟨y, -, rfl⟩ := List.mem_map.mp hx
    rw [Markup.toList_escape] at hc
    rw [decide_eq_true_iff]
    exact Markup.not_mem_delimiters_of_mem_escapeChars hc
  -- The node is one of those of its shape, so its markup follows the template.
  have hmarkup := n.shape.markup_fill n.payloads n.length_payloads
  rw [fill_shape_payloads] at hmarkup
  rw [hmarkup, Template.filter_render hescaped]

/-- Payloads do not change the structure of markup. All nodes of a shape follow one template, in
which each payload is escaped by itself. What is put in holds no delimiter and no ampersand but
those of entities, and it can be told which payload it was. So nodes of one shape have the same
delimiters in the same order. -/
theorem exists_template_and_delimiters_eq :
    (∀ shape : Shape, ∃ t : Template, t.literals.length = shape.holes + 1 ∧
      ∀ payloads : List String, payloads.length = shape.holes →
        (shape.fill payloads).markup = t.render (payloads.map Markup.escape)) ∧
    (∀ n : Node, n.payloads.length = n.shape.holes ∧ n.shape.fill n.payloads = n) ∧
    (∀ x : String, ∀ c ∈ (Markup.escape x).toList, c ∉ Markup.delimiters) ∧
    (∀ (x : String) (as bs : List Char), (Markup.escape x).toList = as ++ '&' :: bs →
      ∃! e, e ∈ Markup.entityTexts ∧ e.toList <+: '&' :: bs) ∧
    Function.Injective Markup.escape ∧
    ∀ m n : Node, m.shape = n.shape →
      m.markup.toList.filter (· ∈ Markup.delimiters) =
        n.markup.toList.filter (· ∈ Markup.delimiters) := by
  refine ⟨fun shape => ⟨shape.template, ?_, shape.markup_fill⟩, ?_, ?_, ?_, ?_, ?_⟩
  · rw [Template.length_literals, Shape.holes_template]
  · exact fun n => ⟨n.length_payloads, n.fill_shape_payloads⟩
  · intro x c hc
    rw [Markup.toList_escape] at hc
    exact Markup.not_mem_delimiters_of_mem_escapeChars hc
  · intro x as bs h
    rw [Markup.toList_escape] at h
    exact Markup.existsUnique_entity_of_escapeChars_eq h
  · exact Markup.escape_injective
  · intro m n h
    rw [filter_delimiters_markup, filter_delimiters_markup, h]

/-- A link with a query and one without: the delimiters in both are those of the tags. -/
theorem delimiters_eq_of_two_links :
    let m : Node := .element "a" [("href", "?q='<>'&r")] [.text "one"]
    let n : Node := .element "a" [("href", "/")] [.text "\"two\" & </a>"]
    (∃ t : Template, t.literals.length = 3 ∧
      n.markup = t.render [Markup.escape "/", Markup.escape "\"two\" & </a>"]) ∧
    (∃! e, e ∈ Markup.entityTexts ∧ e.toList <+: "&amp;r".toList) ∧
    m.markup.toList.filter (· ∈ Markup.delimiters) =
      n.markup.toList.filter (· ∈ Markup.delimiters) := by
  obtain ⟨htemplate, -, -, hentity, -, hdelimiters⟩ := exists_template_and_delimiters_eq
  refine ⟨?_, ?_, ?_⟩
  · obtain ⟨t, hlength, ht⟩ := htemplate (.element "a" ["href"] [.text])
    exact ⟨t, hlength, ht ["/", "\"two\" & </a>"] rfl⟩
  · exact hentity "?q='<>'&r" "?q=&apos;&lt;&gt;&apos;".toList "amp;r".toList (by decide)
  · exact hdelimiters _ _ rfl

end Node

end MarkupTree

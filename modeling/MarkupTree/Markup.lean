import MarkupTree.Markup.Entity
import MarkupTree.Node

/-!
# Markup

A node written as markup. Elements become tags with their attributes in order, an element without
children closes itself, text and attribute values are escaped, and raw text and comments are written
as they stand. No space is added but one before each attribute and those inside the comment marks.
-/

namespace MarkupTree

namespace Markup

/-- One attribute, with the space before it. -/
def attributeText (name value : String) : String :=
  " " ++ name ++ "=\"" ++ escape value ++ "\""

/-- The attributes of a tag in order. -/
def attributesText : List (String × String) → String
  | [] => ""
  | (name, value) :: rest => attributeText name value ++ attributesText rest

end Markup

namespace Node

mutual

/-- A node as markup. -/
def markup : Node → String
  | .text content => Markup.escape content
  | .raw content => content
  | .comment content => "<!-- " ++ content ++ " -->"
  | .element tag attributes [] => "<" ++ tag ++ Markup.attributesText attributes ++ "/>"
  | .element tag attributes (first :: rest) =>
    "<" ++ tag ++ Markup.attributesText attributes ++ ">" ++ (first.markup ++ markupAll rest) ++
      "</" ++ tag ++ ">"

/-- Nodes as markup, one after the other. -/
def markupAll : List Node → String
  | [] => ""
  | first :: rest => first.markup ++ markupAll rest

end

theorem markupAll_append (as bs : List Node) :
    markupAll (as ++ bs) = markupAll as ++ markupAll bs := by
  induction as with
  | nil => simp [markupAll]
  | cons a as ih => simp [markupAll, ih, String.append_assoc]

/-- An element with children is written with an opening and a closing tag. -/
theorem markup_element_of_ne_nil (tag : String) (attributes : List (String × String))
    {children : List Node} (h : children ≠ []) :
    (element tag attributes children).markup =
      "<" ++ tag ++ Markup.attributesText attributes ++ ">" ++ markupAll children ++
        "</" ++ tag ++ ">" := by
  cases children with
  | nil => exact absurd rfl h
  | cons first rest => rw [markup, markupAll]

end Node

end MarkupTree

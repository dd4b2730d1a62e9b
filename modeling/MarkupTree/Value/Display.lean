import MarkupTree.Text.Quoted
import MarkupTree.Value

/-!
# Values in messages

How values and nodes are shown: texts quoted, sequences and mappings with their items, symbols and
nodes with the name of what they are.
-/

namespace MarkupTree

/-- Items with commas between them. -/
def commaSeparated (items : List String) : String := ", ".intercalate items

/-- A symbol as it is shown in messages. -/
def Symbol.display (s : Symbol) : String := "Symbol(" ++ Text.quoted s.name ++ ")"

/-- The wording of the refusal to change, or to delete, a field of a symbol. -/
def Symbol.refuseChange (delete : Bool) (field : String) : String :=
  (if delete then "cannot delete field " else "cannot assign to field ") ++ Text.quoted field

namespace Node

/-- An attribute as it is shown in messages. -/
def displayAttribute : String × String → String
  | (name, value) => "(" ++ Text.quoted name ++ ", " ++ Text.quoted value ++ ")"

mutual

/-- A node as it is shown in messages: its class and its fields in order. -/
def display : Node → String
  | .text content => "TextNode(kind='text', text=" ++ Text.quoted content ++ ")"
  | .raw content => "RawTextNode(kind='raw', text=" ++ Text.quoted content ++ ")"
  | .comment content => "CommentNode(kind='comment', text=" ++ Text.quoted content ++ ")"
  | .element tag attributes children =>
    "ElementNode(kind='element', tag=" ++ Text.quoted tag ++
      ", attributes=[" ++ commaSeparated (attributes.map displayAttribute) ++
      "], children=[" ++ commaSeparated (displayAll children) ++ "])"

/-- The nodes of a list as they are shown. -/
def displayAll : List Node → List String
  | [] => []
  | n :: ns => n.display :: displayAll ns

end

@[simp] theorem displayAll_eq_map (ns : List Node) : displayAll ns = ns.map display := by
  induction ns with
  | nil => rfl
  | cons n ns ih => simp [displayAll, ih]

/-- A node as text: its fields in order, without its class. -/
def asText : Node → String
  | .text content => "kind='text' text=" ++ Text.quoted content
  | .raw content => "kind='raw' text=" ++ Text.quoted content
  | .comment content => "kind='comment' text=" ++ Text.quoted content
  | .element tag attributes children =>
    "kind='element' tag=" ++ Text.quoted tag ++
      " attributes=[" ++ commaSeparated (attributes.map displayAttribute) ++
      "] children=[" ++ commaSeparated (children.map display) ++ "]"

end Node

namespace Value

/-- A sequence of shown items: a tuple of one item keeps a comma. -/
def displaySequence : SequenceKind → List String → String
  | .list, items => "[" ++ commaSeparated items ++ "]"
  | .tuple, [item] => "(" ++ item ++ ",)"
  | .tuple, items => "(" ++ commaSeparated items ++ ")"

mutual

/-- A value as it is shown in messages. -/
def display : Value → String
  | .text s => Text.quoted s
  | .null => "None"
  | .bool b => if b then "True" else "False"
  | .int i => toString i
  | .float x => x.text
  | .sequence kind items => displaySequence kind (displayAll items)
  | .mapping entries => "\x7b" ++ commaSeparated (displayEntries entries) ++ "\x7d"
  | .symbol s => s.display
  | .node n => n.display

/-- The items of a sequence as they are shown. -/
def displayAll : List Value → List String
  | [] => []
  | v :: vs => v.display :: displayAll vs

/-- The entries of a mapping as they are shown. -/
def displayEntries : List (Value × Value) → List String
  | [] => []
  | (key, value) :: entries => (key.display ++ ": " ++ value.display) :: displayEntries entries

end

@[simp] theorem displayAll_eq_map (vs : List Value) : displayAll vs = vs.map display := by
  induction vs with
  | nil => rfl
  | cons v vs ih => simp [displayAll, ih]

/-- A value as text: texts and the names of symbols stand as they are, nodes are their fields, all
else is shown. -/
def asText : Value → String
  | .text s => s
  | .symbol s => s.name
  | .node n => n.asText
  | v => v.display

/-! ## Long integers -/

/-- The number of digits of an integer. -/
def digitCount (i : Int) : Nat := (toString i.natAbs).length

mutual

/-- The number of digits of the longest integer that is shown with a value, or zero. -/
def longestInteger : Value → Nat
  | .int i => digitCount i
  | .sequence _ items => longestOfAll items
  | .mapping entries => longestOfEntries entries
  | _ => 0

/-- The number of digits of the longest integer in the items of a sequence. -/
def longestOfAll : List Value → Nat
  | [] => 0
  | v :: vs => max v.longestInteger (longestOfAll vs)

/-- The number of digits of the longest integer in the entries of a mapping. -/
def longestOfEntries : List (Value × Value) → Nat
  | [] => 0
  | (key, value) :: entries =>
    max (max key.longestInteger value.longestInteger) (longestOfEntries entries)

end

/-- Whether the system shows a value in a message. It may have a limit to the number of digits that
an integer is shown with. -/
def Shown (limit : Option Nat) (v : Value) : Prop := ∀ most ∈ limit, v.longestInteger ≤ most

instance (limit : Option Nat) (v : Value) : Decidable (v.Shown limit) := by
  unfold Shown
  infer_instance

end Value

end MarkupTree

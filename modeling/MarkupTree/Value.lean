import MarkupTree.Node
import MarkupTree.Number.Binary64
import MarkupTree.Symbol

/-!
# Values

The loosely typed values that trees are written in. Nothing about a value says that it is a
well-formed tree: reading one (`MarkupTree.Reading`) is what finds out.
-/

namespace MarkupTree

/-- The two kinds of sequence. Both are accepted wherever a sequence is, but they are not equal. -/
inductive SequenceKind where
  /-- A list, shown in square brackets. -/
  | list
  /-- A tuple, shown in round brackets. -/
  | tuple
deriving DecidableEq, Inhabited

/-- A loosely typed value. -/
inductive Value where
  /-- A text. -/
  | text (s : String)
  /-- The absent value. -/
  | null
  /-- A truth value. -/
  | bool (b : Bool)
  /-- An integer of any size. -/
  | int (i : Int)
  /-- A double precision number. -/
  | float (x : Number.Binary64)
  /-- A list or a tuple. -/
  | sequence (kind : SequenceKind) (items : List Value)
  /-- A mapping with its entries in the order of insertion. -/
  | mapping (entries : List (Value × Value))
  /-- A symbol. -/
  | symbol (s : Symbol)
  /-- A node that has been read before. -/
  | node (n : Node)
deriving Inhabited

namespace Value

/-- The list of the given items. -/
abbrev list (items : List Value) : Value := .sequence .list items

/-- The tuple of the given items. -/
abbrev tuple (items : List Value) : Value := .sequence .tuple items

/-- The items of a sequence. -/
def items? : Value → Option (List Value)
  | .sequence _ items => some items
  | _ => none

@[simp] theorem items?_sequence (kind : SequenceKind) (items : List Value) :
    (Value.sequence kind items).items? = some items := rfl

/-- Whether a value is a list or a tuple. -/
def isSequence (v : Value) : Bool := v.items?.isSome

/-- The name of a value's type in messages. -/
def typeName : Value → String
  | .text _ => "str"
  | .null => "NoneType"
  | .bool _ => "bool"
  | .int _ => "int"
  | .float _ => "float"
  | .sequence .list _ => "list"
  | .sequence .tuple _ => "tuple"
  | .mapping _ => "dict"
  | .symbol _ => "Symbol"
  | .node n => n.className

/-- Whether a value counts as absent or empty when only that matters. -/
def isFalsy : Value → Bool
  | .text s => s.isEmpty
  | .null => true
  | .bool b => !b
  | .int i => i == 0
  | .float x => x.isZero
  | .sequence _ items => items.isEmpty
  | .mapping entries => entries.isEmpty
  | .symbol _ => false
  | .node _ => false

/-! ## Heads -/

/-- What the head of a sequence makes of it. -/
inductive Head where
  /-- A raw text. -/
  | raw
  /-- A comment. -/
  | comment
  /-- An element of the given tag. -/
  | tag (name : Symbol)
  /-- Nothing: the head is no symbol. -/
  | other
deriving DecidableEq

/-- The role of a value at the head of a sequence. -/
def asHead : Value → Head
  | .symbol s =>
    if s = .rawString then .raw
    else if s = .comment then .comment
    else .tag s
  | _ => .other

@[simp] theorem asHead_rawString : (Value.symbol .rawString).asHead = .raw := rfl

@[simp] theorem asHead_comment : (Value.symbol .comment).asHead = .comment := rfl

/-- A symbol at the head that is no marker is a tag. -/
theorem asHead_symbol {s : Symbol} (h : ¬ s.IsMarker) : (Value.symbol s).asHead = .tag s := by
  have h : s ≠ .rawString ∧ s ≠ .comment := not_or.mp h
  simp [asHead, h.1, h.2]

theorem asHead_eq_raw_iff {v : Value} : v.asHead = .raw ↔ v = .symbol .rawString := by
  cases v <;> grind [asHead]

theorem asHead_eq_comment_iff {v : Value} : v.asHead = .comment ↔ v = .symbol .comment := by
  have := Symbol.rawString_ne_comment
  cases v <;> grind [asHead]

theorem asHead_eq_tag_iff {v : Value} {s : Symbol} :
    v.asHead = .tag s ↔ v = .symbol s ∧ ¬ s.IsMarker := by
  cases v <;> grind [asHead, Symbol.IsMarker]

/-- Anything but a symbol is no head. -/
theorem asHead_eq_other_iff {v : Value} : v.asHead = .other ↔ ∀ s, v ≠ .symbol s := by
  cases v <;> grind [asHead]

/-! ## Symbols from values -/

end Value

/-- The symbol that a value names: the value has to be a text that is not empty. -/
def Symbol.ofValue : Value → Except NameError Symbol
  | .text name => Symbol.ofName name
  | v => .error (.notText v.typeName)

end MarkupTree

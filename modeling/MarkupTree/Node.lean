/-!
# Nodes

A node is a markup tree that is known to be well formed: escaped text, raw text, comments and
elements, with the attributes of an element as an ordered list of pairs in which a name may occur
more than once. Equality of nodes is decidable.
-/

namespace MarkupTree

/-- A well-formed markup tree. -/
inductive Node where
  /-- Text, escaped when it is written. -/
  | text (content : String)
  /-- Text that is written as it stands. -/
  | raw (content : String)
  /-- A markup comment. -/
  | comment (content : String)
  /-- An element with its attributes in order and its children. -/
  | element (tag : String) (attributes : List (String × String)) (children : List Node)
deriving Inhabited

namespace Node

/-- The name of a node's class in messages. -/
def className : Node → String
  | .text _ => "TextNode"
  | .raw _ => "RawTextNode"
  | .comment _ => "CommentNode"
  | .element .. => "ElementNode"

/-! ## Equality -/

mutual

/-- Decides the equality of two nodes. -/
def decEq : (a b : Node) → Decidable (a = b)
  | .text s, .text t => decidable_of_iff (s = t) (by simp)
  | .raw s, .raw t => decidable_of_iff (s = t) (by simp)
  | .comment s, .comment t => decidable_of_iff (s = t) (by simp)
  | .element s as cs, .element t bs ds =>
    match decEqList cs ds with
    | isTrue h => decidable_of_iff (s = t ∧ as = bs) (by simp [h])
    | isFalse h => isFalse (by simp [h])
  | .text _, .raw _ | .text _, .comment _ | .text _, .element .. => isFalse nofun
  | .raw _, .text _ | .raw _, .comment _ | .raw _, .element .. => isFalse nofun
  | .comment _, .text _ | .comment _, .raw _ | .comment _, .element .. => isFalse nofun
  | .element .., .text _ | .element .., .raw _ | .element .., .comment _ => isFalse nofun

/-- Decides the equality of two lists of nodes. -/
def decEqList : (as bs : List Node) → Decidable (as = bs)
  | [], [] => isTrue rfl
  | [], _ :: _ | _ :: _, [] => isFalse nofun
  | a :: as, b :: bs =>
    match decEq a b, decEqList as bs with
    | isTrue h, isTrue hs => isTrue (by rw [h, hs])
    | isFalse h, _ => isFalse (by simp [h])
    | _, isFalse hs => isFalse (by simp [hs])

end

instance : DecidableEq Node := decEq

end Node

end MarkupTree

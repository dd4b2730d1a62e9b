import MarkupTree.Json.DecodeError

/-!
# Places in a text

A place in the text of a document, as decoding goes through it from left to right. Going on never
makes the rest of the text longer, and going past something makes it shorter.
-/

namespace MarkupTree.Json

/-- A place in a text: the number of characters before it, and what follows. -/
structure Cursor where
  /-- The number of characters before the place. -/
  position : Nat
  /-- The rest of the text. -/
  rest : List Char

/-- The places with less text left than `cs`. -/
abbrev After (cs : List Char) := { d : Cursor // d.rest.length < cs.length }

namespace Cursor

/-- The place `n` characters on. -/
def skip (c : Cursor) (n : Nat) : Cursor := ⟨c.position + n, c.rest.drop n⟩

/-- Whether a character counts as space between the parts of a document. -/
def isSpace (c : Char) : Bool := c = ' ' || c = '\t' || c = '\n' || c = '\r'

/-- The place after any space. -/
def skipSpace (c : Cursor) : Cursor := c.skip (c.rest.takeWhile isSpace).length

/-- Going on leaves no more text. -/
theorem length_rest_skip_le (c : Cursor) (n : Nat) : (c.skip n).rest.length ≤ c.rest.length := by
  simp [skip]

/-- Going on by a character leaves less text. -/
theorem length_rest_skip_lt {c : Cursor} {n : Nat} (hn : 0 < n) (hc : c.rest ≠ []) :
    (c.skip n).rest.length < c.rest.length := by
  have := List.length_pos_iff.mpr hc
  simp only [skip, List.length_drop]
  omega

theorem length_rest_skipSpace_le (c : Cursor) : c.skipSpace.rest.length ≤ c.rest.length :=
  length_rest_skip_le c _

/-- The place after one character and any space behind it. -/
def past (c : Cursor) : Cursor := (c.skip 1).skipSpace

theorem length_rest_past_le (c : Cursor) : c.past.rest.length ≤ c.rest.length :=
  Nat.le_trans (length_rest_skipSpace_le _) (length_rest_skip_le c 1)

theorem length_rest_past_lt {c : Cursor} (hc : c.rest ≠ []) :
    c.past.rest.length < c.rest.length :=
  Nat.lt_of_le_of_lt (length_rest_skipSpace_le _) (length_rest_skip_lt Nat.one_pos hc)

end Cursor

end MarkupTree.Json

import MarkupTree.Json.Cursor

/-!
# Limits of decoding

What a decoder does apart from the grammar: how it reports what is wrong with a text, whether it
takes integers of many digits, and what it does about half of a surrogate pair, which is no
character.
-/

namespace MarkupTree.Json

/-- What a decoder reports and what it takes. -/
structure Limits (ε : Type) where
  /-- The report of a text that is no document. -/
  malformed : DecodeError → ε
  /-- Whether an integer with so many digits is taken. -/
  integer : (digits : Nat) → Except ε Unit
  /-- The character that half of a surrogate pair is taken for. -/
  half : (unit : Nat) → Except ε Char

/-- The character that half of a surrogate pair is taken for unless another one is wanted. -/
def replaceHalf (_unit : Nat) : Char := '\ufffd'

namespace Limits

/-- Every integer is taken, and half of a surrogate pair is taken for the given character. -/
def taking (half : Nat → Char) : Limits DecodeError where
  malformed := id
  integer _ := .ok ()
  half unit := .ok (half unit)

/-- No limits: every integer is taken, and half of a surrogate pair is replaced. -/
def none : Limits DecodeError := taking replaceHalf

/-- Fails at a place. -/
def fail {ε α : Type} (limits : Limits ε) (c : Cursor) (problem : Problem) : Except ε α :=
  .error (limits.malformed ⟨problem, c.position⟩)

end Limits

/-- Why decoding stops before it has found out whether a text is a document. -/
inductive Obstacle where
  /-- The text is no document. -/
  | malformed (e : DecodeError)
  /-- An integer has too many digits. -/
  | longInteger (digits : Nat)
  /-- Half of a surrogate pair. -/
  | half (unit : Nat)

/-- Stops at integers of more than the given number of digits, if there is such a limit. -/
def Limits.integers (most? : Option Nat) : Limits Obstacle where
  malformed := .malformed
  integer digits := if ∀ most ∈ most?, digits ≤ most then .ok () else .error (.longInteger digits)
  half unit := .ok (replaceHalf unit)

/-- Stops at half of a surrogate pair. -/
def Limits.characters : Limits Obstacle where
  malformed := .malformed
  integer _ := .ok ()
  half unit := .error (.half unit)

end MarkupTree.Json

import MarkupTree.Json.Scalar
import MarkupTree.Json.StringBody

/-!
# Decoding JSON

The document that a text is, or what is wrong with the text and where. A name that comes twice in an
object keeps its first place and its last value. Every step yields the place after what it has read,
which has less text left.
-/

namespace MarkupTree.Json

section Limits

variable {ε : Type} (limits : Limits ε)

mutual

/-- The value that begins at a place, and the place after it. -/
def value (c : Cursor) : Except ε (Json × After c.rest) :=
  match h : c.rest with
  | [] => limits.fail c .noValue
  | '"' :: _ => do
    let (characters, rest) ← stringBody limits c.position (c.skip 1)
    return (.text (String.ofList characters), ⟨rest.1, by
      have := Cursor.length_rest_skip_le c 1
      rw [← h]
      exact Nat.lt_of_lt_of_le rest.2 this⟩)
  | '[' :: _ => do
    have hpast : c.past.rest.length < c.rest.length := Cursor.length_rest_past_lt (by simp [h])
    match c.past.rest with
    | ']' :: _ => return (.array [], ⟨c.past.skip 1, by
        rw [← h]
        exact Nat.lt_of_le_of_lt (Cursor.length_rest_skip_le _ 1) hpast⟩)
    | _ => do
      let (items, rest) ← items c.past
      return (.array items, ⟨rest.1, by rw [← h]; exact Nat.lt_trans rest.2 hpast⟩)
  | '{' :: _ => do
    have hpast : c.past.rest.length < c.rest.length := Cursor.length_rest_past_lt (by simp [h])
    match c.past.rest with
    | '}' :: _ => return (.object [], ⟨c.past.skip 1, by
        rw [← h]
        exact Nat.lt_of_le_of_lt (Cursor.length_rest_skip_le _ 1) hpast⟩)
    | _ => do
      let (members, rest) ← members c.past
      return (ofMembers members, ⟨rest.1, by rw [← h]; exact Nat.lt_trans rest.2 hpast⟩)
  | _ :: _ =>
    match scalar? c.rest with
    | none => limits.fail c .noValue
    | some (value, length) => do
      if value.isInteger then limits.integer (digitCount c.rest length)
      return (value, ⟨c.skip (max length 1), by
        rw [← h]
        exact Cursor.length_rest_skip_lt (by omega) (by simp [h])⟩)
termination_by 2 * c.rest.length
decreasing_by all_goals omega

/-- The items of an array from a place on, where a value has to begin, and the place after the
array. -/
def items (c : Cursor) : Except ε (List Json × After c.rest) := do
  let (first, ⟨end_, hend⟩) ← value c
  have hspace := Cursor.length_rest_skipSpace_le end_
  match end_.skipSpace.rest with
  | ']' :: _ => return ([first], ⟨end_.skipSpace.skip 1,
      Nat.lt_of_le_of_lt (Cursor.length_rest_skip_le _ 1) (Nat.lt_of_le_of_lt hspace hend)⟩)
  | ',' :: _ => do
    have hpast := Cursor.length_rest_past_le end_.skipSpace
    let (others, rest) ← items end_.skipSpace.past
    return (first :: others, ⟨rest.1, by have := rest.2; omega⟩)
  | _ => limits.fail end_.skipSpace .noComma
termination_by 2 * c.rest.length + 1
decreasing_by all_goals omega

/-- The members of an object from a place on, where a name has to begin, and the place after the
object. -/
def members (c : Cursor) : Except ε (List (String × Json) × After c.rest) := do
  match c.rest with
  | '"' :: _ => do
    let (characters, ⟨colon, hcolon⟩) ← stringBody limits c.position (c.skip 1)
    have hskip := Cursor.length_rest_skip_le c 1
    have hspace := Cursor.length_rest_skipSpace_le colon
    match colon.skipSpace.rest with
    | ':' :: _ => do
      have hpast := Cursor.length_rest_past_le colon.skipSpace
      let (first, ⟨end_, hend⟩) ← value colon.skipSpace.past
      have hspace' := Cursor.length_rest_skipSpace_le end_
      match end_.skipSpace.rest with
      | '}' :: _ => return ([(String.ofList characters, first)], ⟨end_.skipSpace.skip 1, by
          have := Cursor.length_rest_skip_le end_.skipSpace 1
          omega⟩)
      | ',' :: _ => do
        have hpast' := Cursor.length_rest_past_le end_.skipSpace
        let (others, rest) ← members end_.skipSpace.past
        return ((String.ofList characters, first) :: others,
          ⟨rest.1, by have := rest.2; omega⟩)
      | _ => limits.fail end_.skipSpace .noComma
    | _ => limits.fail colon.skipSpace .noColon
  | _ => limits.fail c .noName
termination_by 2 * c.rest.length
decreasing_by all_goals omega

end

/-- The document that a text is, as far as the decoder takes it. -/
def decodeWithin (text : List Char) : Except ε Json := do
  if text.head? = some '\ufeff' then
    .error (limits.malformed ⟨.byteOrderMark, 0⟩)
  let (document, rest) ← value limits (Cursor.skipSpace ⟨0, text⟩)
  let c := rest.1.skipSpace
  if c.rest = [] then return document else limits.fail c .extraData

end Limits

/-- The document that a text is. -/
def decode (text : List Char) : Except DecodeError Json := decodeWithin .none text

/-- The number of digits at which decoding stops, if it takes integers of at most so many digits. -/
def longInteger? (most? : Option Nat) (text : List Char) : Option Nat :=
  match decodeWithin (.integers most?) text with
  | .error (.longInteger digits) => some digits
  | _ => none

/-- Whether there is half of a surrogate pair in the strings of a document. -/
def hasHalf (text : List Char) : Bool :=
  match decodeWithin .characters text with
  | .error (.half _) => true
  | _ => false

end MarkupTree.Json

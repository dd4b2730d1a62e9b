import MarkupTree.Json.Limits

/-!
# Strings in JSON texts

Reads a string up to its closing quote. A backslash begins an escape, and two code point escapes in
a row may stand for one character.
-/

namespace MarkupTree.Json

/-- The character that a backslash and the given one stand for. -/
def simpleEscape? : Char → Option Char
  | '"' => some '"'
  | '\\' => some '\\'
  | '/' => some '/'
  | 'b' => some '\x08'
  | 'f' => some '\x0c'
  | 'n' => some '\n'
  | 'r' => some '\r'
  | 't' => some '\t'
  | _ => none

/-- The value of a hexadecimal digit. -/
def hexValue? (c : Char) : Option Nat :=
  if c.isDigit then some (c.toNat - '0'.toNat)
  else if 'a' ≤ c ∧ c ≤ 'f' then some (c.toNat - 'a'.toNat + 10)
  else if 'A' ≤ c ∧ c ≤ 'F' then some (c.toNat - 'A'.toNat + 10)
  else none

/-- The number that four hexadecimal digits stand for, which must not be the last of the text. -/
def codeUnit? : List Char → Option Nat
  | a :: b :: c :: d :: _ :: _ => do
    let a ← hexValue? a
    let b ← hexValue? b
    let c ← hexValue? c
    let d ← hexValue? d
    return ((a * 16 + b) * 16 + c) * 16 + d
  | _ => none

/-- Whether a number is the first half of a surrogate pair. -/
def isHighSurrogate (n : Nat) : Bool := 0xd800 ≤ n && n < 0xdc00

/-- Whether a number is the second half of a surrogate pair. -/
def isLowSurrogate (n : Nat) : Bool := 0xdc00 ≤ n && n < 0xe000

/-- The character of a surrogate pair. -/
def joinSurrogates (high low : Nat) : Char :=
  Char.ofNat (0x10000 + (high - 0xd800) * 0x400 + (low - 0xdc00))

section Limits

variable {ε : Type} (limits : Limits ε)

/-- The character of a number that is not part of a pair. -/
def charOfCodeUnit (n : Nat) : Except ε Char :=
  if isHighSurrogate n || isLowSurrogate n then limits.half n else .ok (Char.ofNat n)

/-- What follows a backslash and a `u`, which is at the place before: the character and the number
of characters read. Two escapes in a row that are a surrogate pair are one character. -/
def codePoint (u : Cursor) : Except ε (Char × Nat) := do
  let digits := u.skip 1
  let some first := codeUnit? digits.rest | limits.fail u .badCodePoint
  match digits.rest.drop 4 with
  | '\\' :: 'u' :: second =>
    if isHighSurrogate first && 4 < second.length then
      match codeUnit? second with
      | none => limits.fail (u.skip 6) .badCodePoint
      | some low =>
        if isLowSurrogate low then return (joinSurrogates first low, 10)
        else return (← charOfCodeUnit limits first, 4)
    else return (← charOfCodeUnit limits first, 4)
  | _ => return (← charOfCodeUnit limits first, 4)

/-- The rest of a string up to its closing quote, and the place after it. The string began at
`start`. -/
def stringBody (start : Nat) (c : Cursor) : Except ε (List Char × After c.rest) :=
  match h : c.rest with
  | [] => .error (limits.malformed ⟨.unterminated, start⟩)
  | '"' :: _ => return ([], ⟨c.skip 1, by simp [Cursor.skip, h]⟩)
  | '\\' :: 'u' :: _ => do
    let (character, n) ← codePoint limits (c.skip 1)
    let (characters, rest) ← stringBody start (c.skip (n + 2))
    return (character :: characters, ⟨rest.1, by
      have := rest.2
      simp only [Cursor.skip, h, List.length_drop, List.length_cons] at this
      simp only [List.length_cons]
      omega⟩)
  | '\\' :: e :: _ =>
    match simpleEscape? e with
    | none => limits.fail c .badEscape
    | some character => do
      let (characters, rest) ← stringBody start (c.skip 2)
      return (character :: characters, ⟨rest.1, by
        have := rest.2
        simp only [Cursor.skip, h, List.length_drop, List.length_cons] at this
        simp only [List.length_cons]
        omega⟩)
  | ['\\'] => .error (limits.malformed ⟨.unterminated, start⟩)
  | character :: _ =>
    if character.toNat < 0x20 then limits.fail c .controlCharacter
    else do
      let (characters, rest) ← stringBody start (c.skip 1)
      return (character :: characters, ⟨rest.1, by
        have := rest.2
        simp only [Cursor.skip, h, List.length_drop, List.length_cons] at this
        simp only [List.length_cons]
        omega⟩)
termination_by c.rest.length
decreasing_by all_goals simp only [Cursor.skip, h, List.length_drop, List.length_cons]; omega

end Limits

end MarkupTree.Json

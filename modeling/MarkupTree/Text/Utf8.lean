/-!
# UTF-8

Strict decoding of UTF-8. What is no UTF-8 is reported with the bytes at fault: a byte that begins
no character, or the longest beginning of a character that is not completed.
-/

namespace MarkupTree.Text.Utf8

/-- Why a run of bytes is no character. -/
inductive Reason where
  /-- The byte begins no character. -/
  | invalidStart
  /-- The next byte does not continue the character. -/
  | invalidContinuation
  /-- The text ends inside the character. -/
  | unexpectedEnd
deriving DecidableEq

/-- The wording of a reason. -/
def Reason.text : Reason → String
  | .invalidStart => "invalid start byte"
  | .invalidContinuation => "invalid continuation byte"
  | .unexpectedEnd => "unexpected end of data"

/-- A run of bytes that is no character. -/
structure DecodeError where
  /-- What is wrong. -/
  reason : Reason
  /-- The number of bytes before the run. -/
  start : Nat
  /-- The number of bytes up to the end of the run. -/
  stop : Nat
  /-- The first byte of the run. -/
  first : Nat
deriving DecidableEq

/-- The message of an error: one byte is named by its value, more by their positions. -/
def DecodeError.message (e : DecodeError) : String :=
  let place :=
    if e.stop = e.start + 1 then
      let ds := Nat.toDigits 16 e.first
      "byte 0x" ++ String.ofList (List.replicate (2 - ds.length) '0' ++ ds) ++ " in position " ++
        toString e.start
    else "bytes in position " ++ toString e.start ++ "-" ++ toString (e.stop - 1)
  "'utf-8' codec can't decode " ++ place ++ ": " ++ e.reason.text

/-- A character of which a part has been read. -/
structure Unfinished where
  /-- The number of bytes before the character. -/
  start : Nat
  /-- Its first byte. -/
  first : Nat
  /-- The bits read so far. -/
  value : Nat
  /-- The number of bytes still to come. -/
  missing : Nat
  /-- The least byte that may come next. -/
  low : Nat
  /-- The greatest byte that may come next. -/
  high : Nat

/-- What a first byte begins: a character of its own, or part of one. The bounds on the second byte
keep out longer forms than needed, surrogates, and what lies beyond the last code point. -/
def begin? (position b : Nat) : Option Unfinished :=
  let part (value missing low high : Nat) : Option Unfinished :=
    some ⟨position, b, value, missing, low, high⟩
  if b < 0x80 then part b 0 0 0
  else if b < 0xc2 then none
  else if b < 0xe0 then part (b - 0xc0) 1 0x80 0xbf
  else if b = 0xe0 then part 0 2 0xa0 0xbf
  else if b = 0xed then part 0xd 2 0x80 0x9f
  else if b < 0xf0 then part (b - 0xe0) 2 0x80 0xbf
  else if b = 0xf0 then part 0 3 0x90 0xbf
  else if b < 0xf4 then part (b - 0xf0) 3 0x80 0xbf
  else if b = 0xf4 then part 4 3 0x80 0x8f
  else none

/-- A part of a character with one more byte. -/
def Unfinished.extend (p : Unfinished) (b : Nat) : Unfinished :=
  { p with value := p.value * 64 + (b - 0x80), missing := p.missing - 1, low := 0x80, high := 0xbf }

/-- Reads bytes from a position on, inside a character or between two. -/
def decodeFrom : Option Unfinished → (position : Nat) → List UInt8 → Except DecodeError (List Char)
  | none, _, [] => .ok []
  | some p, position, [] => .error ⟨.unexpectedEnd, p.start, position, p.first⟩
  | none, position, b :: bs =>
    match begin? position b.toNat with
    | none => .error ⟨.invalidStart, position, position + 1, b.toNat⟩
    | some p =>
      if p.missing = 0 then (decodeFrom none (position + 1) bs).map (Char.ofNat p.value :: ·)
      else decodeFrom (some p) (position + 1) bs
  | some p, position, b :: bs =>
    if p.low ≤ b.toNat ∧ b.toNat ≤ p.high then
      let p := p.extend b.toNat
      if p.missing = 0 then (decodeFrom none (position + 1) bs).map (Char.ofNat p.value :: ·)
      else decodeFrom (some p) (position + 1) bs
    else .error ⟨.invalidContinuation, p.start, position, p.first⟩

/-- The text that bytes stand for. -/
def decode (bytes : List UInt8) : Except DecodeError (List Char) := decodeFrom none 0 bytes

end MarkupTree.Text.Utf8

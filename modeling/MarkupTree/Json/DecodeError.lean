/-!
# Errors in JSON texts

What can be wrong with a text that should be a JSON document, and how it is reported: the wording of
the problem, followed by the place where it was found by line, column and position.
-/

namespace MarkupTree.Json

/-- What is wrong with a text. -/
inductive Problem where
  /-- The text begins with a byte order mark. -/
  | byteOrderMark
  /-- No value where one is wanted. -/
  | noValue
  /-- No string where the name of a member is wanted. -/
  | noName
  /-- No colon after a name. -/
  | noColon
  /-- No comma between two items or members. -/
  | noComma
  /-- A string without its closing quote. -/
  | unterminated
  /-- A control character in a string. -/
  | controlCharacter
  /-- A backslash before a character that cannot be escaped. -/
  | badEscape
  /-- A code point escape without four hexadecimal digits. -/
  | badCodePoint
  /-- Something after the document. -/
  | extraData
deriving DecidableEq

/-- The wording of a problem. -/
def Problem.text : Problem → String
  | .byteOrderMark => "Unexpected UTF-8 BOM (decode using utf-8-sig)"
  | .noValue => "Expecting value"
  | .noName => "Expecting property name enclosed in double quotes"
  | .noColon => "Expecting ':' delimiter"
  | .noComma => "Expecting ',' delimiter"
  | .unterminated => "Unterminated string starting at"
  | .controlCharacter => "Invalid control character at"
  | .badEscape => "Invalid \\escape"
  | .badCodePoint => "Invalid \\uXXXX escape"
  | .extraData => "Extra data"

/-- A problem and the number of characters before the place where it was found. -/
structure DecodeError where
  /-- What is wrong. -/
  problem : Problem
  /-- The number of characters before it. -/
  position : Nat
deriving DecidableEq

namespace DecodeError

/-- The line of a place in a text, counted from one. -/
def line (before : List Char) : Nat := before.count '\n' + 1

/-- The column of a place in a text, counted from one. -/
def column (before : List Char) : Nat :=
  (before.reverse.takeWhile (· ≠ '\n')).length + 1

/-- The message of an error in a given text: what is wrong, and the place by line, column and
position. -/
def message (text : List Char) (e : DecodeError) : String :=
  let before := text.take e.position
  e.problem.text ++ ": line " ++ toString (line before) ++ " column " ++ toString (column before) ++
    " (char " ++ toString e.position ++ ")"

end DecodeError

end MarkupTree.Json

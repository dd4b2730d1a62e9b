import MarkupTree.Json

/-!
# Numbers and words in JSON texts

The number or word at the beginning of a text. A number with a fraction or an exponent is a double
precision number, any other an integer; `NaN`, `Infinity` and `-Infinity` are numbers too.
-/

namespace MarkupTree.Json

open Number.Binary64

/-- The length of the whole part of a number: a zero, or digits that do not begin with one. -/
def wholeLength : List Char → Nat
  | '0' :: _ => 1
  | cs => (cs.takeWhile Char.isDigit).length

/-- The length of the fraction of a number: a point and at least one digit, or nothing. -/
def fractionLength : List Char → Nat
  | '.' :: cs =>
    match (cs.takeWhile Char.isDigit).length with
    | 0 => 0
    | n => n + 1
  | _ => 0

/-- The length of the exponent of a number: the letter, a sign that may be missing, and at least one
digit, or nothing. -/
def exponentLength : List Char → Nat
  | e :: cs =>
    if e = 'e' ∨ e = 'E' then
      let sign := match cs with
        | '+' :: _ | '-' :: _ => 1
        | _ => 0
      match ((cs.drop sign).takeWhile Char.isDigit).length with
      | 0 => 0
      | n => n + sign + 1
    else 0
  | [] => 0

/-- The number at the beginning of a text and its length. -/
def number? (cs : List Char) : Option (Json × Nat) :=
  let sign := if cs.head? = some '-' then 1 else 0
  let unsigned := cs.drop sign
  let whole := wholeLength unsigned
  if whole = 0 then none
  else
    let fraction := fractionLength (unsigned.drop whole)
    let exponent := exponentLength (unsigned.drop (whole + fraction))
    let length := sign + whole + fraction + exponent
    if fraction = 0 ∧ exponent = 0 then
      let n : Int := natOfDigits (unsigned.take whole)
      some (.int (if sign = 1 then -n else n), length)
    else
      let digits := (unsigned.drop (whole + 1)).take (fraction - 1)
      let power := (exponent? ((unsigned.drop (whole + fraction)).take exponent)).getD 0
      some (.float (ofDigits (sign = 1) (unsigned.take whole) digits power), length)

/-- The words that stand for values. -/
def words : List (String × Json) :=
  [("null", .null), ("true", .bool true), ("false", .bool false), ("NaN", .float nan),
    ("Infinity", .float infinity), ("-Infinity", .float (-infinity))]

/-- The word or number at the beginning of a text and its length. -/
def scalar? (cs : List Char) : Option (Json × Nat) :=
  match words.find? fun (word, _) => word.toList.isPrefixOf cs with
  | some (word, value) => some (value, word.length)
  | none => number? cs

/-- Whether a document is an integer. -/
def isInteger : Json → Bool
  | .int _ => true
  | _ => false

/-- The number of digits of an integer that takes up the given length at the beginning of a text. -/
def digitCount (cs : List Char) (length : Nat) : Nat :=
  if cs.head? = some '-' then length - 1 else length

end MarkupTree.Json

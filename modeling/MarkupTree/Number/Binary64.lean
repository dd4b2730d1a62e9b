import MarkupTree.Number.Shortest

/-!
# Double precision numbers

Binary numbers of 64 bits: what the bits stand for, the nearest one to a decimal, comparison by
value with each other and with integers, and their text, which has the fewest digits that read
back to the same number.
-/

namespace MarkupTree.Number

/-- A double precision binary number, given by its bits. Numbers are equal as values of this type
when their bits are; `sameValue` compares what they stand for. -/
structure Binary64 where
  /-- One sign bit, eleven exponent bits and fifty-two fraction bits. -/
  bits : UInt64
deriving DecidableEq, Inhabited

namespace Binary64

/-- What the bits of a number stand for. -/
inductive Datum where
  /-- No number. -/
  | nan
  /-- An infinity. -/
  | infinite (negative : Bool)
  /-- The number `m * 2 ^ q`, or its negative. -/
  | finite (negative : Bool) (m : Nat) (q : Int)
deriving DecidableEq

/-- The value of the sign bit among the bits. -/
def signBit : UInt64 := 0x8000000000000000

/-- Reads the three fields of a number. -/
def datum (x : Binary64) : Datum :=
  let n := x.bits.toNat
  let negative := n / Nat.pow 2 63 == 1
  let exponent : Nat := n / Nat.pow 2 52 % Nat.pow 2 11
  let fraction := n % Nat.pow 2 52
  if exponent = 2047 then
    if fraction = 0 then .infinite negative else .nan
  else if exponent = 0 then
    .finite negative fraction (-1074)
  else
    .finite negative (Nat.pow 2 52 + fraction) ((exponent : Int) - 1075)

/-- Positive infinity. -/
def infinity : Binary64 := ⟨0x7ff0000000000000⟩

/-- The number that is no number. -/
def nan : Binary64 := ⟨0x7ff8000000000000⟩

/-- The number with the other sign. -/
def neg (x : Binary64) : Binary64 := ⟨x.bits ^^^ signBit⟩

instance : Neg Binary64 := ⟨neg⟩

/-! ## Reading decimals -/

/-- The number nearest to `m * 10 ^ e`; what is too large for any becomes infinity. Far from the
range of the finite numbers the answer is known without the power. -/
def ofDecimal (m : Nat) (e : Int) : Binary64 :=
  let magnitude := (digitCount m : Int) + e
  if m = 0 ∨ magnitude < -400 then ⟨0⟩
  else if magnitude > 400 then infinity
  else ⟨(Float.ofScientific m (e < 0) e.natAbs).toBits⟩

/-- The number that a run of decimal digits stands for. -/
def natOfDigits (digits : List Char) : Nat :=
  digits.foldl (fun n c => 10 * n + (c.toNat - '0'.toNat)) 0

/-- The number written with the given integer digits, fraction digits and exponent. -/
def ofDigits (negative : Bool) (whole fraction : List Char) (exponent : Int) : Binary64 :=
  let x := ofDecimal (natOfDigits (whole ++ fraction)) (exponent - (fraction.length : Int))
  if negative then -x else x

/-- Reads an optional sign. -/
def splitSign : List Char → Bool × List Char
  | '-' :: cs => (true, cs)
  | '+' :: cs => (false, cs)
  | cs => (false, cs)

/-- Reads an exponent part, which may be missing. -/
def exponent? : List Char → Option Int
  | [] => some 0
  | c :: cs =>
    let (negative, digits) := splitSign cs
    if (c = 'e' ∨ c = 'E') ∧ digits ≠ [] ∧ digits.all Char.isDigit then
      let n : Int := natOfDigits digits
      some (if negative then -n else n)
    else none

/-- Reads a number without sign: `inf`, `nan`, or digits with an optional point and exponent. -/
def unsigned? (negative : Bool) (cs : List Char) : Option Binary64 :=
  match String.ofList (cs.map Char.toLower) with
  | "inf" | "infinity" => some (if negative then -infinity else infinity)
  | "nan" => some nan
  | _ =>
    let whole := cs.takeWhile Char.isDigit
    let (fraction, rest) :=
      match cs.dropWhile Char.isDigit with
      | '.' :: rest => (rest.takeWhile Char.isDigit, rest.dropWhile Char.isDigit)
      | rest => ([], rest)
    if whole.isEmpty && fraction.isEmpty then none
    else (exponent? rest).map (ofDigits negative whole fraction)

/-- Reads the text of a number. -/
def ofText? (text : String) : Option Binary64 :=
  let (negative, cs) := splitSign text.toList
  unsigned? negative cs

/-! ## Comparison by value -/

/-- Whether two numbers stand for the same value: the two zeros do, and what is no number equals
nothing. -/
def sameValue (x y : Binary64) : Bool :=
  match x.datum, y.datum with
  | .nan, _ | _, .nan => false
  | .finite _ 0 _, .finite _ 0 _ => true
  | _, _ => x.bits == y.bits

/-- Whether a number stands for the given integer. -/
def equalsInt (x : Binary64) (i : Int) : Bool :=
  match x.datum with
  | .finite negative m q =>
    let m : Int := if negative then -m else m
    m * Nat.pow 2 q.toNat == i * Nat.pow 2 (-q).toNat
  | _ => false

/-- Whether a number is one of the two zeros. -/
def isZero (x : Binary64) : Bool := x.equalsInt 0

/-! ## Text -/

/-- How a decimal is laid out: where positional writing begins and ends, and how wide an exponent
is. -/
structure Layout where
  /-- The least exponent of the first digit that is written positionally. -/
  least : Int
  /-- The first exponent of the first digit that is no longer written positionally. -/
  limit : Int
  /-- The least number of digits of an exponent. -/
  exponentWidth : Nat

/-- Numbers from `0.0001` up to below `10 ^ 16` are written positionally, the others with an
exponent of two digits or more. -/
def layout : Layout := ⟨-4, 16, 2⟩

/-- Fills up with leading zeros. -/
def padLeft (width : Nat) (digits : List Char) : List Char :=
  List.replicate (width - digits.length) '0' ++ digits

/-- Writes a decimal in a given layout; a positional number always has a point. -/
def Layout.write (l : Layout) (d : Decimal) : String :=
  let ds := Nat.toDigits 10 d.digits
  let point := (ds.length : Int) + d.exponent
  let lead := point - 1
  String.ofList <|
    if l.least ≤ lead ∧ lead < l.limit then
      if 0 ≤ d.exponent then ds ++ List.replicate d.exponent.toNat '0' ++ ['.', '0']
      else if 0 < point then ds.take point.toNat ++ '.' :: ds.drop point.toNat
      else '0' :: '.' :: List.replicate (-point).toNat '0' ++ ds
    else
      let mantissa := match ds with
        | first :: second :: rest => first :: '.' :: second :: rest
        | short => short
      let sign := if lead < 0 then '-' else '+'
      mantissa ++ 'e' :: sign :: padLeft l.exponentWidth (Nat.toDigits 10 lead.natAbs)

/-- The text of a number: the shortest decimal that reads back to it, in the library's layout. -/
def text (x : Binary64) : String :=
  match x.datum with
  | .nan => "nan"
  | .infinite negative => if negative then "-inf" else "inf"
  | .finite negative m q =>
    let magnitude :=
      if m = 0 then layout.write ⟨0, 0⟩
      else layout.write (shortest m q (m = Nat.pow 2 52 && decide (-1074 < q)))
    if negative then "-" ++ magnitude else magnitude

end Binary64

end MarkupTree.Number

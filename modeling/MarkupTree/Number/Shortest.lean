/-!
# Shortest decimals

The decimal with the fewest digits among those that round to a given binary number, and of these
the one nearest to it. The search goes over decimal grids from coarse to fine and tests the two
neighbours of the number on each grid in exact integer arithmetic.
-/

namespace MarkupTree.Number

/-- The decimal number `digits * 10 ^ exponent`. -/
structure Decimal where
  /-- The significant digits, read as a number. -/
  digits : Nat
  /-- The power of ten that the last digit counts. -/
  exponent : Int
deriving DecidableEq

/-- The numbers that round to `value * 2 ^ scale`: those from `low` to `high`, on the same scale. -/
structure RoundingInterval where
  /-- The lower end. -/
  low : Nat
  /-- The number itself. -/
  value : Nat
  /-- The upper end. -/
  high : Nat
  /-- The power of two that all three count. -/
  scale : Int
  /-- Whether the two ends themselves round to the number. -/
  closed : Bool
deriving DecidableEq

namespace RoundingInterval

/-- The interval around `m * 2 ^ q` when the next numbers lie `2 ^ q` away, or half as far below
when `narrowBelow` says so. A number halfway between two goes to the one whose `m` is even. -/
def around (m : Nat) (q : Int) (narrowBelow : Bool) : RoundingInterval where
  low := 4 * m - (if narrowBelow then 1 else 2)
  value := 4 * m
  high := 4 * m + 2
  scale := q - 2
  closed := m % 2 = 0

/-- How many units of the interval's scale make up the denominator when its numbers are counted in
steps of `10 ^ x`: such a number is `n * numerator / denominator` steps. -/
def denominator (i : RoundingInterval) (x : Int) : Nat :=
  Nat.pow 10 x.toNat * Nat.pow 2 (-i.scale).toNat

/-- The numerator that belongs to `denominator`. -/
def numerator (i : RoundingInterval) (x : Int) : Nat :=
  Nat.pow 2 i.scale.toNat * Nat.pow 10 (-x).toNat

/-- Whether `d * 10 ^ x` lies in the interval. -/
def contains (i : RoundingInterval) (x : Int) (d : Nat) : Bool :=
  let point := d * i.denominator x
  let low := i.low * i.numerator x
  let high := i.high * i.numerator x
  if i.closed then low ≤ point && point ≤ high else low < point && point < high

/-- Of the two neighbours of the number on the grid `10 ^ x` the one in the interval; of two the
nearer, and of two equally near the even one. -/
def nearestOnGrid? (i : RoundingInterval) (x : Int) : Option Nat :=
  let value := i.value * i.numerator x
  let step := i.denominator x
  let below := value / step
  match i.contains x below, i.contains x (below + 1) with
  | false, false => none
  | true, false => some below
  | false, true => some (below + 1)
  | true, true =>
    let down := value - below * step
    let up := (below + 1) * step - value
    if down < up then some below
    else if up < down then some (below + 1)
    else if below % 2 = 0 then some below else some (below + 1)

/-- The first hit on the grids `10 ^ x`, `10 ^ (x - 1)` and so on, over at most `steps` grids. -/
def firstHit (i : RoundingInterval) : (steps : Nat) → (x : Int) → Option Decimal
  | 0, _ => none
  | steps + 1, x =>
    match i.nearestOnGrid? x with
    | some d => some ⟨d, x⟩
    | none => firstHit i steps (x - 1)

end RoundingInterval

/-- The number of decimal digits of `n`; zero has none. -/
def digitCount (n : Nat) : Nat :=
  if n = 0 then 0 else (Nat.toDigits 10 n).length

/-- The shortest decimal that rounds to `m * 2 ^ q`. The first grid lies above the number, and a
grid finer than the distance of two numbers always has a hit, which bounds the search. -/
def shortest (m : Nat) (q : Int) (narrowBelow : Bool) : Decimal :=
  let whole := m * Nat.pow 2 q.toNat / Nat.pow 2 (-q).toNat
  let top := digitCount whole
  ((RoundingInterval.around m q narrowBelow).firstHit (top + (-q).toNat + 1) top).getD ⟨0, 0⟩

end MarkupTree.Number

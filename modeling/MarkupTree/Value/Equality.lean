import MarkupTree.Value

/-!
# Equality of values

When two values count as equal: numbers of all types by what they stand for, sequences of one kind
item by item, mappings without regard to the order of their entries, symbols by name. The keys of a
mapping are told apart by this equality.
-/

namespace MarkupTree

/-- A value that takes part in comparison by number. -/
inductive Numeric where
  /-- An integer, or a truth value as zero or one. -/
  | int (i : Int)
  /-- A double precision number. -/
  | float (x : Number.Binary64)

/-- Whether two numbers stand for the same value. -/
def Numeric.same : Numeric → Numeric → Bool
  | .int i, .int j => i == j
  | .float x, .float y => x.sameValue y
  | .int i, .float x | .float x, .int i => x.equalsInt i

namespace Value

/-- The number that a value is, if it is one. -/
def numeric? : Value → Option Numeric
  | .bool b => some (.int b.toNat)
  | .int i => some (.int i)
  | .float x => some (.float x)
  | _ => none

mutual

/-- Whether two values are equal. -/
def same : Value → Value → Bool
  | .text s, .text t => s == t
  | .null, .null => true
  | .sequence kind vs, .sequence kind' ws => decide (kind = kind') && sameAll vs ws
  | .mapping as, .mapping bs => as.length == bs.length && sameEntries as bs
  | .symbol s, .symbol t => decide (s = t)
  | .node m, .node n => decide (m = n)
  | v, w =>
    match v.numeric?, w.numeric? with
    | some m, some n => m.same n
    | _, _ => false

/-- Whether two lists of values are equal item by item. -/
def sameAll : List Value → List Value → Bool
  | [], [] => true
  | v :: vs, w :: ws => same v w && sameAll vs ws
  | _, _ => false

/-- Whether every entry of the first list is found in the second. -/
def sameEntries : List (Value × Value) → List (Value × Value) → Bool
  | [], _ => true
  | (key, value) :: entries, others =>
    others.any (fun (key', value') => same key key' && same value value') &&
      sameEntries entries others

end

/-- Puts an entry into a mapping: an equal key keeps its place and takes the new value, any other
key comes last. -/
def insertEntry : List (Value × Value) → (key value : Value) → List (Value × Value)
  | [], key, value => [(key, value)]
  | (key', value') :: entries, key, value =>
    if same key' key then (key', value) :: entries
    else (key', value') :: insertEntry entries key value

/-- The mapping of the given entries, put in one after the other. -/
def ofEntries (entries : List (Value × Value)) : Value :=
  .mapping (entries.foldl (fun acc (key, value) => insertEntry acc key value) [])

end Value

end MarkupTree

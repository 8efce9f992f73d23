/-!
# Shortest decimals

A binary floating point number is printed with the fewest digits that read back as the same
number.  The reals that round to it form an interval around it, with both ends included exactly
when its significand is even.  The decimals with last place `10 ^ t` form a grid, and the coarser
the grid the fewer digits its points have; so `shortest` walks down from the coarsest grid and stops
at the first that has a point in the interval.  Of several points the nearest to the number wins,
and of two equally near the one with the even last digit.

Everything is compared in whole numbers: the interval is kept in quarters of the last binary place,
where the number itself and both ends are integers.
-/

namespace WorkspaceSchema.Decimal

/-- The decimal `digits · 10 ^ exponent`. -/
structure Digits where
  digits : Nat
  exponent : Int
deriving Repr, DecidableEq

/-- A number and the ends of its rounding interval, all in units of `2 ^ exponent`. -/
structure Interval where
  low : Nat
  value : Nat
  high : Nat
  exponent : Int
  closed : Bool

namespace Interval

/-- The interval of the positive number `significand · 2 ^ exponent`.  Below a power of two the
neighbours lie twice as close as above it. -/
def ofBinary (significand : Nat) (exponent : Int) (powerOfTwo : Bool) : Interval where
  low := if powerOfTwo then 4 * significand - 1 else 4 * significand - 2
  value := 4 * significand
  high := 4 * significand + 2
  exponent := exponent - 2
  closed := significand % 2 = 0

/-- The factors `(p, q)` that turn units of `2 ^ exponent` into units of `10 ^ place`: `x` of the
former are `x · p / q` of the latter. -/
def factors (i : Interval) (place : Int) : Nat × Nat :=
  (Nat.pow 2 i.exponent.toNat * Nat.pow 10 (-place).toNat,
    Nat.pow 2 (-i.exponent).toNat * Nat.pow 10 place.toNat)

/-- Whether the decimal `d · 10 ^ place` lies in the interval. -/
def contains (i : Interval) (place : Int) (d : Nat) : Bool :=
  let (p, q) := i.factors place
  if i.closed then i.low * p ≤ d * q && d * q ≤ i.high * p
  else i.low * p < d * q && d * q < i.high * p

/-- The point of the grid of `place` that lies in the interval nearest to the number. -/
def gridPoint? (i : Interval) (place : Int) : Option Nat :=
  let (p, q) := i.factors place
  let below := i.value * p / q
  let above := below + 1
  match i.contains place below, i.contains place above with
  | false, false => none
  | true, false => some below
  | false, true => some above
  | true, true =>
    let down := i.value * p - below * q
    let up := above * q - i.value * p
    if down < up then some below
    else if up < down then some above
    else if below % 2 = 0 then some below else some above

/-- Walks down from the grid of `place` through `steps` finer grids. -/
def search (i : Interval) : Nat → Int → Digits
  | 0, place => ⟨i.value, place⟩
  | steps + 1, place =>
    match i.gridPoint? place with
    | some d => ⟨d, place⟩
    | none => search i steps (place - 1)

/-- The shortest decimal in the interval.  No double is beyond `10 ^ 309` or needs a place below
`10 ^ (-342)`. -/
def shortest (i : Interval) : Digits :=
  i.search 652 309

end Interval

/-- The significands of 52 bits are below this; those of 53 bits begin with it. -/
def significandLimit : Nat := 4503599627370496

/-- The numbers that an exponent is kept as are below this. -/
def biasedLimit : Nat := 2048

/-- The shortest decimal that reads back as the finite number with these bits, sign aside; `none`
for zero. -/
def ofBits? (bits : UInt64) : Option Digits :=
  let fraction : Nat := bits.toNat % significandLimit
  let biased : Nat := bits.toNat / significandLimit % biasedLimit
  if biased = 0 then
    if fraction = 0 then none else some (Interval.ofBinary fraction (-1074) false).shortest
  else
    let exponent : Int := (biased : Int) - 1075
    some (Interval.ofBinary (significandLimit + fraction) exponent (fraction = 0 && 1 < biased)).shortest

end WorkspaceSchema.Decimal

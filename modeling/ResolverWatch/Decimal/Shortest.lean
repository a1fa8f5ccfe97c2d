/-!
# The shortest decimal that reads back

A positive finite double is `m · 2 ^ q`. The reals that round to it form an interval around it,
whose ends belong to it when `m` is even. Of all decimals in the interval the shortest is the one
on the coarsest grid of multiples of a power of ten that meets the interval, and of the grid's
points in the interval the one nearest to the double, a tie going to the even multiple.
All arithmetic is exact, on natural numbers.
-/

namespace ResolverWatch.Decimal

/-- The decimal `digits · 10 ^ exponent`. -/
structure Scaled where
  digits : Nat
  exponent : Int
  deriving DecidableEq, Repr

/-- The reals that round to one double, in quarters of the distance of doubles: `low` to `high`
times `2 ^ (scale - 2)` around `middle`, with or without the ends. -/
structure Interval where
  low : Nat
  middle : Nat
  high : Nat
  scale : Int
  closed : Bool
  deriving DecidableEq, Repr

/-- The interval of `m · 2 ^ q`. Below a power of two doubles are twice as dense, down to the
least exponent. -/
def Interval.of (m : Nat) (q : Int) : Interval where
  low := if m = 0x10000000000000 ∧ -1074 < q then 4 * m - 1 else 4 * m - 2
  middle := 4 * m
  high := 4 * m + 2
  scale := q
  closed := m % 2 == 0

/-- A power of ten or two as a numerator. -/
def powerUp (base : Nat) (e : Int) : Nat :=
  Nat.pow base e.toNat

/-- A power of ten or two as a denominator. -/
def powerDown (base : Nat) (e : Int) : Nat :=
  Nat.pow base (-e).toNat

/-- The weight of one step of the grid `10 ^ k`, over a denominator shared with `quarterWeight`. -/
def gridWeight (i : Interval) (k : Int) : Nat :=
  powerUp 10 k * powerDown 2 (i.scale - 2)

/-- The weight of one quarter of the distance of doubles. -/
def quarterWeight (i : Interval) (k : Int) : Nat :=
  powerDown 10 k * powerUp 2 (i.scale - 2)

/-- The point `c · 10 ^ k` lies in the interval. -/
def Interval.has (i : Interval) (k : Int) (c : Nat) : Bool :=
  let point := c * gridWeight i k
  let low := i.low * quarterWeight i k
  let high := i.high * quarterWeight i k
  if i.closed then low ≤ point && point ≤ high else low < point && point < high

/-- The point of the grid `10 ^ k` to write, if the grid meets the interval. -/
def Interval.point? (i : Interval) (k : Int) : Option Nat :=
  let grid := gridWeight i k
  let middle := i.middle * quarterWeight i k
  let below := middle / grid
  let gap := middle - below * grid
  match i.has k below, i.has k (below + 1) with
  | true, true =>
    if 2 * gap < grid || (2 * gap == grid && below % 2 == 0) then some below else some (below + 1)
  | true, false => some below
  | false, true => some (below + 1)
  | false, false => none

/-- The first grid that meets the interval, of `10 ^ k` and `fuel` finer ones. -/
def Interval.search (i : Interval) : Nat → Int → Scaled
  | 0, k => ⟨0, k⟩
  | fuel + 1, k =>
    match i.point? k with
    | some c => ⟨c, k⟩
    | none => i.search fuel (k - 1)

/-- A power of ten above `m · 2 ^ q` for every 53-bit `m`; 0.302 exceeds the logarithm of two. -/
def topExponent (q : Int) : Int :=
  ((q + 55) * 302).fdiv 1000 + 3

/-- The shortest decimal that reads back as `m · 2 ^ q`. A double has 17 digits at most, and the
coarsest grid tried is at most 24 powers above the one that shows them all. -/
def shortest (m : Nat) (q : Int) : Scaled :=
  (Interval.of m q).search 48 (topExponent q)

end ResolverWatch.Decimal

import DomainSql.Decimal.Binary64

/-!
# The shortest decimal that reads back

A double stands for every real number that rounds to it. Among the decimals in
that interval, the shortest has the fewest digits; among those, the one nearest
the double is chosen, and a tie goes to the even last digit. The search looks at
one decimal grid after the other, coarsest first: on a grid only the two points
next to the double can be the nearest, so a grid without a hit among these two
has no point in the interval at all.
-/
namespace DomainSql

/-- A decimal `digits * 10^exponent`. -/
structure Decimal where
  digits : Nat
  exponent : Int
deriving DecidableEq, Repr

namespace Binary64

/-- The real numbers that round to a magnitude, with both ends measured in
quarter units so that each is a whole number. The ends themselves round to the
double exactly when its last binary digit is even. -/
structure Interval where
  low : Nat
  high : Nat
  closed : Bool
deriving Repr

/-- The interval of a magnitude. The neighbour below a power of two is only half
as far away as the one above, unless the doubles are spaced by one unit there. -/
def interval (units : Nat) : Interval :=
  let step := spacing units
  let below := if units = Nat.pow 2 52 * step ∧ step ≠ 1 then step else 2 * step
  { low := 4 * units - below
    high := 4 * units + 2 * step
    closed := units / step % 2 = 0 }

/-- Quarter units in one. -/
def quartersOfOne : Nat := 4 * unitsOfOne

/-- A decimal grid point scaled to a common denominator: `d * 10^k` equals
`(gridScale k).1 * d / (gridScale k).2` quarter units. -/
def gridScale (k : Int) : Nat × Nat :=
  if 0 ≤ k then (Nat.pow 10 k.toNat * quartersOfOne, 1)
  else (quartersOfOne, Nat.pow 10 (-k).toNat)

/-- Whether the grid point `d * 10^k` rounds to the magnitude of the interval. -/
def Interval.contains (i : Interval) (d : Nat) (k : Int) : Bool :=
  let (num, den) := gridScale k
  let point := d * num
  if i.closed then i.low * den ≤ point && point ≤ i.high * den
  else i.low * den < point && point < i.high * den

/-- The grid point `d * 10^k` chosen for a magnitude, if one of the two points
next to the magnitude rounds to it. -/
def gridHit? (units : Nat) (k : Int) : Option Nat :=
  let i := interval units
  let (num, den) := gridScale k
  let value := 4 * units * den
  let d := value / num
  match i.contains d k, i.contains (d + 1) k with
  | true, true =>
    let below := value - d * num
    let above := (d + 1) * num - value
    if below < above then some d
    else if above < below then some (d + 1)
    else if d % 2 = 0 then some d else some (d + 1)
  | true, false => some d
  | false, true => some (d + 1)
  | false, false => none

/-- The finest grid that is ever needed: its points are closer together than the
smallest doubles are. -/
def finestGrid : Int := -324

/-- Try the grids from `k` downwards, at most `count` of them. -/
def searchGrids (units : Nat) (k : Int) : Nat → Option Decimal
  | 0 => none
  | count + 1 =>
    match gridHit? units k with
    | some d => some ⟨d, k⟩
    | none => searchGrids units (k - 1) count

/-- The shortest decimal of a positive magnitude. The search starts above the
magnitude's whole part and ends on the finest grid, where a hit is certain; zero
is its own decimal. -/
def shortest (units : Nat) : Decimal :=
  if units = 0 then ⟨0, 0⟩
  else
    let start := (Nat.repr (units / unitsOfOne)).length
    (searchGrids units start (start + (-finestGrid).toNat + 1)).getD ⟨0, 0⟩

end Binary64

end DomainSql

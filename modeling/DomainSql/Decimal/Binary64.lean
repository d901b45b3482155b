/-!
# Finite double-precision numbers, exactly

A finite double is a sign and a whole number of units of 2^-1074, the smallest
positive double. Every finite double is such a number, so values are compared,
multiplied and divided as natural numbers and nothing is approximated before
the one place where a result is rounded.

Rounding keeps the leading 53 binary digits, goes to the nearer of the two
neighbours, and gives a tie to the neighbour whose last digit is even.
-/
namespace DomainSql

/-- A finite double: `units` counts multiples of 2^-1074. Zero keeps its sign,
because a negative zero is written differently from zero. -/
structure Binary64 where
  negative : Bool
  units : Nat
deriving DecidableEq, Repr, Inhabited

namespace Binary64

/-- The number of units in one. -/
def unitsOfOne : Nat := Nat.pow 2 1074

/-- The first magnitude, in units, that no finite double reaches: 2^1024. -/
def limit : Nat := Nat.pow 2 2098

/-- The distance, in units, between neighbouring doubles around a magnitude: one
unit for the first 2^53 of them, and the value of the last of 53 binary digits
above that. -/
def spacing (units : Nat) : Nat := Nat.pow 2 (units.log2 - 52)

/-- The multiple of `step` nearest to `num / den`, a tie going to the even
multiple. -/
def nearestMultiple (num den step : Nat) : Nat :=
  let quotient := num / (den * step)
  let rest := num % (den * step)
  if 2 * rest < den * step then quotient * step
  else if den * step < 2 * rest then (quotient + 1) * step
  else if quotient % 2 = 0 then quotient * step
  else (quotient + 1) * step

/-- The magnitude, in units, of the double nearest to `num / den` units, or
nothing when the rounded magnitude is 2^1024 or more. -/
def roundUnits? (num den : Nat) : Option Nat :=
  let rounded := nearestMultiple num den (spacing (num / den))
  if rounded < limit then some rounded else none

/-- The double magnitude nearest to a natural number. -/
def ofNat? (n : Nat) : Option Nat := roundUnits? (n * unitsOfOne) 1

/-- The rounded product of two magnitudes given in units. -/
def mul? (a b : Nat) : Option Nat := roundUnits? (a * b) unitsOfOne

/-- The rounded quotient of two magnitudes given in units. -/
def div? (a b : Nat) : Option Nat := roundUnits? (a * unitsOfOne) b

end Binary64

end DomainSql

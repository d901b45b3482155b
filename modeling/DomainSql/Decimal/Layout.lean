import DomainSql.Decimal.Shortest

/-!
# How a decimal is written

A decimal is written positionally while its leading digit stands close enough to
the point, and in scientific notation outside that range. Where the change
happens is a property of a format, so it is a field of a record and not a
constant of the writer.
-/
namespace DomainSql

/-- The range of decimal exponents, of the leading digit, that are written
positionally. -/
structure DecimalFormat where
  lowestPositional : Int
  highestPositional : Int

namespace DecimalFormat

/-- A whole number of zeros. -/
def zeros (count : Nat) : List Char := List.replicate count '0'

/-- The sign of a decimal exponent is always written. -/
def exponentText (exponent : Int) : List Char :=
  (if exponent < 0 then '-' else '+') :: (Nat.repr exponent.natAbs).toList

/-- Digits followed by zeros up to the point; the part behind the point is at
least one digit, so the text is not that of a whole number. -/
def positional (digits : List Char) (leading : Int) : List Char :=
  if leading < 0 then
    '0' :: '.' :: (zeros (-leading - 1).toNat ++ digits)
  else
    let whole := leading.toNat + 1
    let fraction := digits.drop whole
    digits.take whole ++ zeros (whole - digits.length) ++
      '.' :: (if fraction.isEmpty then ['0'] else fraction)

/-- The leading digit, a point if more digits follow, and the exponent. -/
def scientific (digits : List Char) (leading : Int) : List Char :=
  match digits with
  | [] => []
  | [d] => d :: 'e' :: exponentText leading
  | d :: rest => d :: '.' :: (rest ++ 'e' :: exponentText leading)

/-- Write a decimal in a format. -/
def write (format : DecimalFormat) (decimal : Decimal) : List Char :=
  let digits := (Nat.repr decimal.digits).toList
  let leading := decimal.exponent + digits.length - 1
  if format.lowestPositional ≤ leading ∧ leading ≤ format.highestPositional then
    positional digits leading
  else
    scientific digits leading

end DecimalFormat

/-- The text of a double in a format: a sign if it is negative, zero included,
and its shortest decimal. -/
def Binary64.text (format : DecimalFormat) (x : Binary64) : List Char :=
  let magnitude := format.write (Binary64.shortest x.units)
  if x.negative then '-' :: magnitude else magnitude

end DomainSql

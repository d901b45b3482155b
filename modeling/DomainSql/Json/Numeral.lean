import DomainSql.Json.Failure

/-!
# Numerals

A numeral without a point and without an exponent is an integer when it fits 64
bits, signed or unsigned. Every other numeral is a double, a negative zero too.

A double is read from the leading digits that fit 64 bits: that whole number is
rounded to a double first, and is then multiplied or divided by the double
nearest to the power of ten that remains. Digits that do not fit only move the
point.
-/
namespace DomainSql.Json

/-- The largest whole number collected from the digits of a numeral. -/
def significandLimit : Nat := Nat.pow 2 64 - 1

/-- The largest number collected from the digits of an exponent. -/
def exponentLimit : Nat := Nat.pow 2 31 - 1

/-- The value of a decimal digit. -/
def digitValue (c : Char) : Nat := c.toNat - '0'.toNat

/-- Collect digits as long as the number they make stays within a limit. The
digits from the first one that does not fit on are left over. -/
def collect (limit : Nat) (value : Nat) : List Char → Nat × List Char
  | [] => (value, [])
  | d :: rest =>
    if value * 10 + digitValue d ≤ limit then collect limit (value * 10 + digitValue d) rest
    else (value, d :: rest)

/-- The double nearest to a power of ten, up to the largest that is finite. -/
def powerOfTen (k : Nat) : Nat := (Binary64.ofNat? (Nat.pow 10 k)).getD 0

/-- The exponent of the largest power of ten that is a finite double. -/
def largestPower : Nat := 308

/-- Divide a magnitude by `10^exponent`, in steps of the largest power. A
magnitude that has become zero stays zero. -/
def scaleDown (magnitude exponent : Nat) : Nat → Option Nat
  | 0 => some 0
  | steps + 1 =>
    if exponent ≤ largestPower then Binary64.div? magnitude (powerOfTen exponent)
    else if magnitude = 0 then some 0
    else do
      let scaled ← Binary64.div? magnitude (powerOfTen largestPower)
      scaleDown scaled (exponent - largestPower) steps

/-- The magnitude of `significand * 10^exponent`, or nothing when it is too
large for a finite double. -/
def scaled? (significand : Nat) (exponent : Int) : Option Nat := do
  let magnitude ← Binary64.ofNat? significand
  if exponent < 0 then
    scaleDown magnitude exponent.natAbs (exponent.natAbs / largestPower + 1)
  else if exponent ≤ largestPower then Binary64.mul? magnitude (powerOfTen exponent.toNat)
  else if magnitude = 0 then some 0
  else none

/-- The double of a magnitude, out of range when there is none. -/
def finishDouble (negative : Bool) (rest : List Char) :
    Option Nat → Except Failure (Number × List Char)
  | some magnitude => .ok (.double ⟨negative, magnitude⟩, rest)
  | none => .error (.after .numberOutOfRange rest)

/-- The double of a significand and an exponent, out of range when its magnitude
is. -/
def readDouble (negative : Bool) (significand : Nat) (exponent : Int) (rest : List Char) :
    Except Failure (Number × List Char) :=
  finishDouble negative rest (scaled? significand exponent)

/-- The digits at the start of a text, and the rest. -/
def spanDigits (cs : List Char) : List Char × List Char := cs.span Char.isDigit

/-- An exponent, after its letter. An exponent whose digits do not fit makes the
number zero when it is negative or the significand is zero, and is out of range
otherwise, as soon as the first digit too many is seen. -/
def readExponent (negative : Bool) (significand : Nat) (point : Int) (cs : List Char) :
    Except Failure (Number × List Char) :=
  let (downwards, cs) :=
    match cs with
    | '+' :: rest => (false, rest)
    | '-' :: rest => (true, rest)
    | _ => (false, cs)
  let (digits, rest) := spanDigits cs
  match digits with
  | [] => .error (match rest with
    | [] => .after .endInValue []
    | _ => .at .invalidNumber rest)
  | _ =>
    match collect exponentLimit 0 digits with
    | (exponent, []) =>
      readDouble negative significand (if downwards then point - exponent else point + exponent)
        rest
    | (_, _ :: left) =>
      if significand ≠ 0 ∧ ¬ downwards then .error (.after .numberOutOfRange (left ++ rest))
      else .ok (.double ⟨negative, 0⟩, rest)

/-- What follows the whole part and the fraction of a double: an exponent or
nothing. -/
def readDoubleEnd (negative : Bool) (significand : Nat) (point : Int) (cs : List Char) :
    Except Failure (Number × List Char) :=
  match cs with
  | 'e' :: rest => readExponent negative significand point rest
  | 'E' :: rest => readExponent negative significand point rest
  | _ => readDouble negative significand point cs

/-- A fraction, after its point. At least one digit is needed. -/
def readFraction (negative : Bool) (significand : Nat) (point : Int) (cs : List Char) :
    Except Failure (Number × List Char) :=
  let (digits, rest) := spanDigits cs
  match digits with
  | [] => .error (match rest with
    | [] => .at .endInValue []
    | _ => .at .invalidNumber rest)
  | _ =>
    let (significand, left) := collect significandLimit significand digits
    readDoubleEnd negative significand (point - (digits.length - left.length)) rest

/-- The integer of a significand, or a double for a negative zero and below the
smallest integer. -/
def wholeNumber (negative : Bool) (significand : Nat) (rest : List Char) :
    Except Failure (Number × List Char) :=
  if ¬ negative then .ok (.integer significand, rest)
  else if significand = 0 ∨ -(significand : Int) < Number.lowest then
    readDouble true significand 0 rest
  else .ok (.integer (-significand), rest)

/-- What follows the whole part of a numeral. `left` holds the digits of the whole
part that did not fit the significand; they move the point. -/
def readNumberEnd (negative : Bool) (significand : Nat) (left : List Char) (cs : List Char) :
    Except Failure (Number × List Char) :=
  match cs with
  | '.' :: rest => readFraction negative significand left.length rest
  | _ =>
    if left.isEmpty ∧ cs.head? ≠ some 'e' ∧ cs.head? ≠ some 'E' then
      wholeNumber negative significand cs
    else readDoubleEnd negative significand left.length cs

/-- A numeral, after its sign. A zero stands alone in front of the point. -/
def readUnsigned (negative : Bool) (cs : List Char) : Except Failure (Number × List Char) :=
  match cs with
  | [] => .error (.after .endInValue [])
  | '0' :: rest =>
    if (rest.head?.map Char.isDigit).getD false then .error (.at .invalidNumber rest)
    else readNumberEnd negative 0 [] rest
  | c :: _ =>
    if c.isDigit then
      let (digits, rest) := spanDigits cs
      let (significand, left) := collect significandLimit 0 digits
      readNumberEnd negative significand left rest
    else .error (.at .invalidNumber cs)

/-- A numeral. -/
def readNumber (cs : List Char) : Except Failure (Number × List Char) :=
  match cs with
  | '-' :: rest => readUnsigned true rest
  | _ => readUnsigned false cs

/-- Whether a numeral starts with this character. -/
def startsNumber (c : Char) : Bool := c = '-' || c.isDigit

end DomainSql.Json

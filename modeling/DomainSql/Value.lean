import DomainSql.Decimal.Layout
import DomainSql.Entries

/-!
# Values

Filters, payload rows and result rows hold values whose shape is only known when
a request arrives. A value is a scalar, an array of values or a mapping from keys
to values. A mapping is ordered, because the order of its keys is the order of
the clauses compiled from it, and it holds every key once.
-/
namespace DomainSql

/-- A number is an integer of 64 bits, signed or unsigned, or a finite double. -/
inductive Number where
  | integer (value : Int)
  | double (value : Binary64)
deriving DecidableEq, Repr, Inhabited

/-- The smallest integer kept as an integer. -/
def Number.lowest : Int := -Int.ofNat (Nat.pow 2 63)

/-- Doubles are written positionally from 10^-5 up to just below 10^16. -/
def Number.doubleFormat : DecimalFormat := ⟨-5, 15⟩

/-- The text of an integer: its decimal digits after a sign if it is negative. -/
def Number.integerText (value : Int) : List Char :=
  if value < 0 then '-' :: (Nat.repr value.natAbs).toList else (Nat.repr value.natAbs).toList

/-- The text of a number, the same in a document and inside a pattern. -/
def Number.text : Number → List Char
  | .integer value => integerText value
  | .double value => value.text doubleFormat

/-- A leaf value, and the only kind of value bound to a placeholder. -/
inductive Scalar where
  | null
  | bool (value : Bool)
  | number (value : Number)
  | text (value : String)
deriving DecidableEq, Repr, Inhabited

/-- A scalar, an array or a mapping. -/
inductive Value where
  | scalar (value : Scalar)
  | array (items : List Value)
  | mapping (entries : List (String × Value))
deriving Inhabited

/-- An ordered mapping from keys to values. -/
abbrev Mapping := List (String × Value)

namespace Mapping

/-- The value of a key. -/
def value? (entries : Mapping) (key : String) : Option Value := List.lookup key entries

/-- The keys in order. -/
def keys (entries : Mapping) : List String := List.map Prod.fst entries

/-- Every key occurs once. -/
def Unique (entries : Mapping) : Prop := (keys entries).Nodup

end Mapping

/-- The null value. -/
abbrev Value.null : Value := .scalar .null

/-- A truth value. -/
abbrev Value.bool (b : Bool) : Value := .scalar (.bool b)

/-- A text. -/
abbrev Value.text (s : String) : Value := .scalar (.text s)

/-- An integer. -/
abbrev Value.integer (n : Int) : Value := .scalar (.number (.integer n))

end DomainSql

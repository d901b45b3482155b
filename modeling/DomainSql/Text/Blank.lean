/-!
# White space

The characters with the Unicode property of white space, and texts without any
of them at either end.
-/
namespace DomainSql.Text

/-- The code points of the white space characters. -/
def blankCodePoints : List Nat :=
  [0x9, 0xa, 0xb, 0xc, 0xd, 0x20, 0x85, 0xa0, 0x1680, 0x2000, 0x2001, 0x2002, 0x2003, 0x2004,
   0x2005, 0x2006, 0x2007, 0x2008, 0x2009, 0x200a, 0x2028, 0x2029, 0x202f, 0x205f, 0x3000]

/-- A character is blank when it has the property of white space. -/
def isBlank (c : Char) : Bool := blankCodePoints.contains c.toNat

/-- A text without the blanks at its start. -/
def trimStart (cs : List Char) : List Char := cs.dropWhile isBlank

/-- A text without the blanks at its start and at its end. -/
def trim (cs : List Char) : List Char := (trimStart (trimStart cs).reverse).reverse

end DomainSql.Text

/-!
# ASCII bytes

Classes of bytes common to addresses and URI references.
-/

namespace AccessPoint.Ascii

/-- The byte of an ASCII character. -/
def byte (c : Char) : UInt8 := c.toNat.toUInt8

/-- Whether `b` is one of the listed ASCII characters. -/
def oneOf (cs : List Char) (b : UInt8) : Bool := cs.any fun c ↦ byte c == b

/-- Decimal digits. -/
def isDigit (b : UInt8) : Bool := 0x30 ≤ b && b ≤ 0x39

/-- Letters. -/
def isAlpha (b : UInt8) : Bool := (0x41 ≤ b && b ≤ 0x5A) || (0x61 ≤ b && b ≤ 0x7A)

/-- Letters and digits. -/
def isAlphanum (b : UInt8) : Bool := isAlpha b || isDigit b

/-- Hexadecimal digits of either case. -/
def isHex (b : UInt8) : Bool := isDigit b || (0x41 ≤ b && b ≤ 0x46) || (0x61 ≤ b && b ≤ 0x66)

end AccessPoint.Ascii

/-!
# Hexadecimal numerals

Escapes name characters by their number in hexadecimal.
-/

namespace AccessPoint.Text

/-- A number in lower-case digits. -/
def hexDigits (n : Nat) : List Char := Nat.toDigits 16 n

/-- The value of a digit of either case. -/
def hexValue? (c : Char) : Option Nat :=
  if c.isDigit then some (c.toNat - 0x30)
  else if 'a' ≤ c ∧ c ≤ 'f' then some (c.toNat - 0x61 + 10)
  else if 'A' ≤ c ∧ c ≤ 'F' then some (c.toNat - 0x41 + 10)
  else none

/-- The number that digits of either case write. -/
def hexNumber? (cs : List Char) : Option Nat :=
  cs.foldlM (fun n c ↦ (hexValue? c).map (16 * n + ·)) 0

end AccessPoint.Text

/-!
# Bounded numerals

Port numbers and log levels may be written as an unsigned decimal numeral: an optional plus sign,
then digits, with any number of leading zeros. `Numeral.read` reads one up to a limit from left to
right and stops at the first fault, so of two faults the leftmost is reported: `"99999x"` is too
large for a port, `"6553x"` is not a numeral.
-/

namespace AccessPoint.Text

/-- Why a text is no numeral within the limit. -/
inductive Numeral.Fault
  /-- A character that is not a digit, or no digit at all. -/
  | notDigit
  /-- The digits read so far already exceed the limit. -/
  | tooLarge
  deriving DecidableEq, Repr

namespace Numeral

/-- The wording of a fault. -/
def Fault.message : Fault → String
  | .notDigit => "invalid digit found in string"
  | .tooLarge => "number too large to fit in target type"

/-- The value of a decimal digit. -/
def digitValue (c : Char) : Nat := c.toNat - '0'.toNat

/-- Digits appended to a value already read, up to `limit`. -/
def readDigits (limit : Nat) : Nat → List Char → Except Fault Nat
  | n, [] => .ok n
  | n, c :: cs =>
    if c.isDigit then
      let m := 10 * n + digitValue c
      if m ≤ limit then readDigits limit m cs else .error .tooLarge
    else .error .notDigit

/-- An optional plus sign and one or more digits, of value at most `limit`. -/
def read (limit : Nat) (s : String) : Except Fault Nat :=
  let digits := match s.toList with
    | '+' :: cs => cs
    | cs => cs
  if digits.isEmpty then .error .notDigit else readDigits limit 0 digits

end Numeral

end AccessPoint.Text

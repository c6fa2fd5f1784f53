import AccessPoint.Recogniser
import AccessPoint.Text.Ascii
import AccessPoint.Text.Utf8

/-!
# IPv4 addresses

An address is four octets. Its canonical text writes each octet in decimal without leading zeros;
`Ipv4.quad` also reads octets padded with zeros to two or three digits. Each group of digits is
taken greedily up to three, and a group whose value is too large is never cut short to fit.
-/

namespace AccessPoint

open Ascii

/-- An IPv4 address, most significant octet first. -/
@[ext]
structure Ipv4 where
  a : UInt8
  b : UInt8
  c : UInt8
  d : UInt8
  deriving DecidableEq, Repr

namespace Ipv4

/-- An octet in decimal. -/
def octetText (o : UInt8) : List Char := Nat.toDigits 10 o.toNat

/-- The canonical text. -/
def text (ip : Ipv4) : String :=
  String.ofList
    (octetText ip.a ++ '.' :: octetText ip.b ++ '.' :: octetText ip.c ++ '.' :: octetText ip.d)

/-- The value of a list of decimal digits. -/
def digitsValue (ds : List UInt8) : Nat := ds.foldl (fun n b ↦ 10 * n + (b.toNat - 0x30)) 0

/-- Up to three digits at the head of the bytes: their value, and how many they are. -/
def octet (s : List UInt8) : Except Failure (UInt8 × Nat) :=
  let digits := (s.take 3).takeWhile isDigit
  if digits.isEmpty then .error ⟨.count, 0⟩
  else if digitsValue digits ≤ 255 then .ok ((digitsValue digits).toUInt8, digits.length)
  else .error ⟨.value, 0⟩

/-- An octet after `n` bytes, with the offset of its end. -/
def octetAfter (n : Nat) (s : List UInt8) : Except Failure (UInt8 × Nat) :=
  match octet (s.drop n) with
  | .ok (o, m) => .ok (o, n + m)
  | .error f => .error (f.shift n)

/-- A dot after `n` bytes, as the offset of its end. -/
def dotAfter (n : Nat) : Recogniser := (Recogniser.literal [byte '.']).after n

/-- Four octets parted by dots at the head of the bytes: the address, and the length read. What
follows the last octet is not looked at. -/
def quad (s : List UInt8) : Except Failure (Ipv4 × Nat) := do
  let (a, n) ← octetAfter 0 s
  let n ← dotAfter n s
  let (b, n) ← octetAfter n s
  let n ← dotAfter n s
  let (c, n) ← octetAfter n s
  let n ← dotAfter n s
  let (d, n) ← octetAfter n s
  return (⟨a, b, c, d⟩, n)

end Ipv4

end AccessPoint

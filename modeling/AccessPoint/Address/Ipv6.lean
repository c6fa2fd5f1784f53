import AccessPoint.Address.Ipv4

/-!
# The text of IPv6 addresses

An IPv6 address is written as eight 16-bit groups, of one to four hexadecimal digits each, parted by
colons. The last two groups may be written as an IPv4 address whose octets have no leading zeros,
and one double colon may stand for a stretch of zero groups. `Ipv6.isText` says whether the bytes
are such a text from end to end.
-/

namespace AccessPoint.Ipv6

open Ascii

/-- One group: one to four hexadecimal digits. -/
def isGroup (field : List UInt8) : Bool :=
  field.all isHex && 1 ≤ field.length && field.length ≤ 4

/-- An IPv4 octet without leading zeros. -/
def isPlainOctet (field : List UInt8) : Bool :=
  field.all isDigit && 1 ≤ field.length && field.length ≤ 3 &&
    Ipv4.digitsValue field ≤ 255 && (field.length == 1 || field.head? != some (byte '0'))

/-- An IPv4 address in canonical form. -/
def isDotted (field : List UInt8) : Bool :=
  let octets := field.splitOn (byte '.')
  octets.length == 4 && octets.all isPlainOctet

/-- The number of groups that fields between colons stand for; the last may be a dotted address,
which stands for two, if `dotted` allows it. -/
def groupCount? (dotted : Bool) : List (List UInt8) → Option Nat
  | [] => some 0
  | [field] =>
    if isGroup field then some 1 else if dotted && isDotted field then some 2 else none
  | field :: fields => if isGroup field then (groupCount? dotted fields).map (· + 1) else none

/-- The number of groups in a stretch of text without a double colon; an empty stretch has none. -/
def stretch? (dotted : Bool) (s : List UInt8) : Option Nat :=
  if s.isEmpty then some 0 else groupCount? dotted (s.splitOn (byte ':'))

/-- The text before and after the first double colon. -/
def splitDouble? : List UInt8 → Option (List UInt8 × List UInt8)
  | b :: c :: s =>
    if b = byte ':' ∧ c = byte ':' then some ([], s)
    else (splitDouble? (c :: s)).map fun (left, right) ↦ (b :: left, right)
  | _ => none

/-- Whether the bytes are the text of an IPv6 address: eight groups, or a double colon with at most
seven groups around it. -/
def isText (s : List UInt8) : Bool :=
  match splitDouble? s with
  | none => stretch? true s == some 8
  | some (left, right) =>
    match stretch? false left, stretch? true right with
    | some m, some n => m + n ≤ 7
    | _, _ => false

end AccessPoint.Ipv6

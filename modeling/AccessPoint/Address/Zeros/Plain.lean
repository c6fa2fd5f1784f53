import AccessPoint.Address.Zeros.Basic

/-!
# Padding, said plainly

What it is to drop the padding of IPv4 literals, said on the text as a whole and not as a scan: the
text is cut into stretches, which are alternately made of digits and dots and free of them, and each
stretch that is a literal from end to end is written canonically.
-/

namespace AccessPoint.Zeros.Plain

open Ascii

/-- A group of one to three digits of value at most 255. -/
def isOctet (g : List UInt8) : Bool :=
  g.all isDigit && 1 ≤ g.length && g.length ≤ 3 && Ipv4.digitsValue g ≤ 255

/-- The address that a stretch writes, if it is four octets parted by dots. -/
def literal? (stretch : List UInt8) : Option Ipv4 :=
  match stretch.splitOn (byte '.') with
  | [a, b, c, d] =>
    if [a, b, c, d].all isOctet then
      let value := fun g ↦ (Ipv4.digitsValue g).toUInt8
      some ⟨value a, value b, value c, value d⟩
    else none
  | _ => none

/-- A stretch, canonical if it is a literal. -/
def trimStretch (stretch : List UInt8) : List UInt8 :=
  match literal? stretch with
  | some ip => Text.utf8 ip.text
  | none => stretch

/-- The maximal stretches of digits and dots, and those between them. -/
def stretches (source : List UInt8) : List (List UInt8) :=
  source.splitBy fun a b ↦ isQuadByte a == isQuadByte b

/-- The text with every literal written canonically. -/
def withoutPadding (source : List UInt8) : List UInt8 := (stretches source).flatMap trimStretch

end AccessPoint.Zeros.Plain

import AccessPoint.Uri.Reference

/-!
# The grammar of URI references

The language that the recognisers of this library are for, said without them: each component is a
property of a whole list of bytes, and a sequence of components is a concatenation. Nothing here is
greedy or ordered. What an IPv6 address looks like is left to `Ipv6.isText`.
-/

namespace AccessPoint.Uri.Grammar

open Ascii

/-- A component in front of others may be absent. -/
def Absent (c : List UInt8 → Prop) (s : List UInt8) : Prop := s = [] ∨ c s

/-- One component followed by another. -/
def Seq (c d : List UInt8 → Prop) (s : List UInt8) : Prop := ∃ t u, s = t ++ u ∧ c t ∧ d u

/-- The byte of an ASCII character, followed by a component. -/
def Marked (m : Char) (c : List UInt8 → Prop) (s : List UInt8) : Prop :=
  ∃ t, s = byte m :: t ∧ c t

/-- Bytes of one class. -/
def All (p : UInt8 → Bool) (s : List UInt8) : Prop := ∀ b ∈ s, p b

/-- A letter, then scheme bytes. -/
def Scheme (s : List UInt8) : Prop := ∃ b t, s = b :: t ∧ isAlpha b ∧ All isScheme t

/-- A slash and a run of path bytes. -/
def AbsPath : List UInt8 → Prop := Marked '/' (IsRun isPath)

/-- A non-empty first segment and an optional absolute path. -/
def RelPath : List UInt8 → Prop :=
  Seq (fun s ↦ s ≠ [] ∧ IsRun isRelSegment s) (Absent AbsPath)

/-- A percent sign and a non-empty zone. -/
def Zone : List UInt8 → Prop := Marked '%' fun s ↦ s ≠ [] ∧ All isZone s

/-- An IPv6 address with an optional zone in brackets. -/
def Ipv6Reference : List UInt8 → Prop :=
  Marked '[' (Seq (fun s ↦ Ipv6.isText s) (Seq (Absent Zone) fun s ↦ s = [byte ']']))

/-- A run of user information bytes with an `@` behind it. -/
def UserPart : List UInt8 → Prop := Seq (IsRun isUserinfo) fun s ↦ s = [byte '@']

/-- A colon and digits. -/
def PortPart : List UInt8 → Prop := Marked ':' (All isDigit)

/-- An authority is a bracketed address with optional user information and port, or a registered
name. -/
def Authority (s : List UInt8) : Prop :=
  Seq (Absent UserPart) (Seq Ipv6Reference (Absent PortPart)) s ∨ IsRun isRegName s

/-- Two slashes, an authority and an optional absolute path. -/
def NetPath : List UInt8 → Prop := Marked '/' (Marked '/' (Seq Authority (Absent AbsPath)))

/-- A network path, or an absolute path that does not begin with two slashes. -/
def HierPath (s : List UInt8) : Prop := NetPath s ∨ AbsPath s ∧ ¬slashes <+: s

/-- A question mark and a query. -/
def Query : List UInt8 → Prop := Marked '?' (IsRun isUric)

/-- A number sign and a fragment. -/
def Fragment : List UInt8 → Prop := Marked '#' (IsRun isUric)

/-- A path and an optional query. -/
def HierPart : List UInt8 → Prop := Seq HierPath (Absent Query)

/-- A non-empty run that does not begin with a slash. -/
def OpaquePart (s : List UInt8) : Prop := s ≠ [] ∧ s.head? ≠ some (byte '/') ∧ IsRun isUric s

/-- A scheme, a colon, and a hierarchical or opaque part. -/
def AbsoluteUri : List UInt8 → Prop :=
  Seq Scheme (Marked ':' fun s ↦ HierPart s ∨ OpaquePart s)

/-- An optional path and an optional query. -/
def RelativeUri : List UInt8 → Prop :=
  Seq (Absent fun s ↦ HierPath s ∨ RelPath s) (Absent Query)

/-- An absolute or relative URI and an optional fragment. -/
def Reference : List UInt8 → Prop :=
  Seq (fun s ↦ AbsoluteUri s ∨ RelativeUri s) (Absent Fragment)

/-- Two slashes on their own, with or without a scheme in front: derivable, and yet no reference. -/
def Bare (s : List UInt8) : Prop :=
  s = slashes ∨ Seq Scheme (Marked ':' fun t ↦ t = slashes) s

end AccessPoint.Uri.Grammar

import AccessPoint.Address.Ipv4

/-!
# Dropping the padding of IPv4 literals

Proxy addresses and URLs may hold IPv4 literals padded with zeros, such as `010.000.000.001`. A
literal *stands* at a place of a text when four octets are read there and neither the byte before
nor the byte after is a digit or a dot. `trimZeros` writes every standing literal canonically and
leaves everything else as it is; `Zeros.trimmed` also tells whether a literal had to be replaced.

The text is scanned from left to right by `Scan.step`. `copied` is the place up to which the source
is accounted for in `built`, `pos` the place looked at next; what lies between them is source text
to be copied as it stands.
-/

namespace AccessPoint

namespace Zeros

open Ascii

/-- Bytes that extend a dotted quad: a literal that touches one is no literal. -/
def isQuadByte (b : UInt8) : Bool := isDigit b || b == byte '.'

/-- The literal that stands at the head of `rest`, with its length, when `before` is the byte in
front of it. -/
def standing? (before : Option UInt8) (rest : List UInt8) : Option (Ipv4 × Nat) :=
  if before.any isQuadByte then none
  else match Ipv4.quad rest with
    | .ok (ip, n) => if rest[n]?.any isQuadByte then none else some (ip, n)
    | .error _ => none

/-- The state of a scan: two places in the source, and the text built so far. -/
structure Scan where
  /-- The source up to here is accounted for in `built`. -/
  copied : Nat
  /-- The place looked at next. -/
  pos : Nat
  /-- The byte in front of `pos`. -/
  before : Option UInt8
  /-- The source from `copied` on. -/
  uncopied : List UInt8
  /-- The source from `pos` on. -/
  rest : List UInt8
  /-- The source up to `copied`, without padding. -/
  built : Array UInt8

namespace Scan

/-- The scan of `source` at its start. -/
def start (source : List UInt8) : Scan := ⟨0, 0, none, source, source, #[]⟩

/-- The scan moved on by `n` bytes. -/
def skip (n : Nat) (σ : Scan) : Scan :=
  { σ with pos := σ.pos + n, before := (σ.rest.take n).getLast?, rest := σ.rest.drop n }

/-- One step: past a standing literal, which is replaced unless it is canonical, or else past one
byte. At the end of the source nothing changes. -/
def step (σ : Scan) : Scan :=
  if σ.rest.isEmpty then σ
  else match standing? σ.before σ.rest with
    | none => σ.skip 1
    | some (ip, n) =>
      let canonical := Text.utf8 ip.text
      if σ.rest.take n = canonical then σ.skip n
      else
        { σ.skip n with
          copied := σ.pos + n
          uncopied := σ.rest.drop n
          built := σ.built ++ σ.uncopied.take (σ.pos - σ.copied) ++ canonical }

/-- The scan after `n` further steps. -/
def steps : Nat → Scan → Scan
  | 0, σ => σ
  | n + 1, σ => steps n σ.step

/-- The scan of the whole source: each step moves on by at least one byte. -/
def run (source : List UInt8) : Scan := steps source.length (start source)

/-- The text built, with the rest of the source behind it. -/
def result (σ : Scan) : List UInt8 := σ.built.toList ++ σ.uncopied

end Scan

/-- A text without padding in its IPv4 literals, and whether a literal had to be replaced. -/
structure Trimmed where
  text : String
  rewritten : Bool
  deriving DecidableEq, Repr

/-- Replaces every standing IPv4 literal that is not canonical. -/
def trimmed (s : String) : Trimmed :=
  let σ := Scan.run (Text.utf8 s)
  if σ.copied = 0 then ⟨s, false⟩ else ⟨(Text.ofUtf8? σ.result).getD s, true⟩

end Zeros

/-- The text with the padding of its standing IPv4 literals dropped. -/
def trimZeros (s : String) : String := (Zeros.trimmed s).text

end AccessPoint

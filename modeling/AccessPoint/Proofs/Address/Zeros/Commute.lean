import AccessPoint.Proofs.Address.Zeros.Canonical

/-!
# Padding and the text around it

A literal is told by the digits and dots next to it and by nothing further away. So the padding of a
text may be dropped piece by piece, wherever two pieces do not meet in digits and dots on both sides
(`trimZeros_append`), and what has no digit and no dot is left as it is.

Blanks are of the latter kind. Trimming cuts a text at such places, and therefore commutes with the
dropping of padding (`trim_trimZeros_comm`).

The law for pieces is known for bytes already (`withoutPadding_append`). Here it is said of texts
and their characters, which takes one fact about the encoding: all bytes of a character are digits
and dots, or none of them is (`isQuadByte_eq_isQuadChar`). So the last byte of a text tells about
its last character, and the first about the first.

The condition cannot be left out. A digit in front of `010.000.000.001` makes a first group of four
digits, and then there is no literal at all; so the texts that are tried after the main result have
a letter there, and then a digit.

That trimming commutes is not the same as that a trimmed text stays trimmed, which is shown before
(`trim_trimZeros`): it also says that nothing is left of the blanks, and that the blanks have not
kept a literal from being seen.
-/

namespace AccessPoint

open Ascii Zeros Zeros.Plain
open Text (isBlank present?)

variable {c : Char} {b : UInt8} {s t : String}

/-! ### Digits and dots as characters -/

namespace Zeros

/-- Characters that extend a dotted quad. -/
def isQuadChar (c : Char) : Bool := c.isDigit || c == '.'

/-- They lie in ASCII, and above the blanks. -/
theorem toNat_of_isQuadChar (h : isQuadChar c) : 0x2E ≤ c.toNat ∧ c.toNat ≤ 0x39 := by
  rw [isQuadChar, Bool.or_eq_true, beq_iff_eq] at h
  rcases h with h | rfl
  · have hle : 0x30 ≤ c.toNat ∧ c.toNat ≤ 0x39 := Char.isDigit_iff_toNat.1 h
    omega
  · decide

/-- No blank extends a dotted quad. -/
theorem isQuadChar_of_isBlank (h : isBlank c) : isQuadChar c = false := by
  rw [isBlank, decide_eq_true_eq] at h
  rw [← Bool.not_eq_true]
  intro hquad
  have := toNat_of_isQuadChar hquad
  omega

/-- In ASCII, characters and bytes are the same. -/
theorem isQuadByte_byte (h : c.toNat < 0x80) : isQuadByte (byte c) = isQuadChar c := by
  have hdot : byte c = byte '.' ↔ c = '.' := by
    rw [← UInt8.toNat_inj, Text.toNat_byte_of_lt h, ← Char.toNat_inj]
    rfl
  rw [Bool.eq_iff_iff, isQuadByte, isQuadChar, Bool.or_eq_true, Bool.or_eq_true, beq_iff_eq,
    beq_iff_eq, Text.isDigit_byte_iff h, hdot]

/-- Every byte of a character tells whether the character extends a dotted quad. -/
theorem isQuadByte_eq_isQuadChar (hb : b ∈ String.utf8EncodeChar c) :
    isQuadByte b = isQuadChar c := by
  by_cases hc : c.toNat < 0x80
  · rw [Text.utf8EncodeChar_of_lt hc, List.mem_singleton] at hb
    rw [hb, isQuadByte_byte hc]
  · -- neither the bytes nor the character are in ASCII
    have hchar : ¬isQuadChar c := by
      intro h
      have := toNat_of_isQuadChar h
      omega
    have hbyte : ¬isQuadByte b := by
      intro h
      exact hc (utf8EncodeChar_of_quadByte (List.any_eq_true.2 ⟨b, hb, h⟩)).1
    exact Bool.eq_iff_iff.2 (iff_of_false hbyte hchar)

end Zeros

/-! ### Dropping the padding piece by piece -/

/-- A text may be cut where digits and dots do not stand on both sides. -/
theorem trimZeros_append (h : (∀ c ∈ s.toList.getLast?, isQuadChar c = false) ∨
    ∀ c ∈ t.toList.head?, isQuadChar c = false) :
    trimZeros (s ++ t) = trimZeros s ++ trimZeros t := by
  have hbyte : ∀ c, ∀ b ∈ String.utf8EncodeChar c, isQuadByte b = false ↔ isQuadChar c = false :=
    fun c b hb ↦ by rw [isQuadByte_eq_isQuadChar hb]
  rw [← Text.forall_mem_getLast?_utf8_iff hbyte, ← Text.forall_mem_head?_utf8_iff hbyte] at h
  refine Text.utf8_injective ?_
  rw [utf8_trimZeros, Text.utf8_append, withoutPadding_append h, Text.utf8_append, utf8_trimZeros,
    utf8_trimZeros]

/-- Without digits and dots there is no padding. -/
theorem trimZeros_of_forall (h : ∀ c ∈ s.toList, isQuadChar c = false) : trimZeros s = s := by
  have hbytes : ∀ b ∈ Text.utf8 s, isQuadByte b = false := by
    intro b hb
    obtain ⟨c, hc, hbc⟩ := List.mem_flatMap.1 hb
    rw [isQuadByte_eq_isQuadChar hbc, h c hc]
  refine Text.utf8_injective ?_
  have hnil := withoutPadding_append_of_not_quadBytes hbytes []
  rwa [List.append_nil, withoutPadding_nil, List.append_nil, ← utf8_trimZeros] at hnil

/-! ### Trimming and padding -/

/-- It makes no difference whether a text is trimmed before its padding is dropped or after. -/
theorem trim_trimZeros_comm (s : String) : Text.trim (trimZeros s) = trimZeros (Text.trim s) := by
  obtain ⟨left, right, hleft, hright, hs⟩ := Text.exists_append_trim_append s
  have hstay : ∀ {u : String}, (∀ c ∈ u.toList, isBlank c) → trimZeros u = u := fun hu ↦
    trimZeros_of_forall fun c hc ↦ isQuadChar_of_isBlank (hu c hc)
  have hends : trimZeros s = left ++ trimZeros (Text.trim s) ++ right := by
    conv => lhs; rw [← hs]
    rw [trimZeros_append, trimZeros_append, hstay hleft, hstay hright]
    · exact .inl fun c hc ↦ isQuadChar_of_isBlank (hleft c (List.mem_of_mem_getLast? hc))
    · exact .inr fun c hc ↦ isQuadChar_of_isBlank (hright c (List.mem_of_mem_head? hc))
  calc Text.trim (trimZeros s)
      = Text.trim (left ++ trimZeros (Text.trim s) ++ right) := by rw [hends]
    _ = Text.trim (trimZeros (Text.trim s)) := Text.trim_append_append hleft hright
    _ = trimZeros (Text.trim s) := trim_trimZeros (Text.trim_trim s)

/-- A value with its padding dropped is present exactly if it was present before. -/
theorem present?_map_trimZeros (v : Option String) :
    present? (v.map trimZeros) = (present? v).map trimZeros := by
  rcases v with - | s
  · rfl
  · have hempty : trimZeros (Text.trim s) ≠ "" ↔ Text.trim s ≠ "" := trimZeros_eq_empty_iff.not
    rw [Option.map_some, present?, present?, Option.map_some, Option.map_some, trim_trimZeros_comm,
      Option.filter_some, Option.filter_some]
    simp only [hempty]
    split <;> rfl

/-- **Padding is dropped piece by piece, before trimming or after.** Dropping the padding commutes
with trimming, and with putting two texts together unless the first ends in a digit or a dot and the
second begins with one. So the text around an address makes no difference to what becomes of it, and
an optional value may be trimmed first, as a selection does it, or last. -/
theorem padding_dropped_piecewise :
    (∀ s, Text.trim (trimZeros s) = trimZeros (Text.trim s)) ∧
      (∀ s t : String, (∀ c ∈ s.toList.getLast?, isQuadChar c = false) ∨
          (∀ c ∈ t.toList.head?, isQuadChar c = false) →
        trimZeros (s ++ t) = trimZeros s ++ trimZeros t) ∧
      (∀ left s right : String, (∀ c ∈ left.toList.getLast?, isQuadChar c = false) →
        (∀ c ∈ right.toList.head?, isQuadChar c = false) →
          trimZeros (left ++ s ++ right) = trimZeros left ++ trimZeros s ++ trimZeros right) ∧
      ∀ v, present? (v.map trimZeros) = (present? v).map trimZeros := by
  refine ⟨trim_trimZeros_comm, fun s t ↦ trimZeros_append, fun left s right hleft hright ↦ ?_,
    present?_map_trimZeros⟩
  rw [trimZeros_append (.inr hright), trimZeros_append (.inl hleft)]

/-- A padded host between a scheme and a port, and behind a letter; a digit in front of it is part
of its first group, which is then too long. -/
theorem padding_dropped_piecewise_around_host :
    let host := "010.000.000.001"
    (∀ c ∈ "\thttp://".toList.getLast?, isQuadChar c = false) ∧
      (∀ c ∈ ":0080 ".toList.head?, isQuadChar c = false) ∧
      trimZeros ("\thttp://" ++ host ++ ":0080 ") =
        trimZeros "\thttp://" ++ trimZeros host ++ trimZeros ":0080 " ∧
      trimZeros ("v" ++ host) = trimZeros "v" ++ trimZeros host ∧ trimZeros host = "10.0.0.1" ∧
      trimZeros ("1" ++ host) ≠ trimZeros "1" ++ trimZeros host := by
  intro host
  obtain ⟨-, htwo, hthree, -⟩ := padding_dropped_piecewise
  have hleft : ∀ c ∈ "\thttp://".toList.getLast?, isQuadChar c = false := by simp [isQuadChar]
  have hright : ∀ c ∈ ":0080 ".toList.head?, isQuadChar c = false := by simp [isQuadChar]
  have hletter : ∀ c ∈ "v".toList.getLast?, isQuadChar c = false := by simp [isQuadChar]
  exact ⟨hleft, hright, hthree _ host _ hleft hright, htwo "v" host (.inl hletter),
    by decide +kernel, by decide +kernel⟩

end AccessPoint

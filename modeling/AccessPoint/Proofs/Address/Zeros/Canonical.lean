import AccessPoint.Proofs.Address.Zeros.Scan
import AccessPoint.Proofs.Text.Blank

/-!
# Texts without padding

What is left when the padding is dropped. A literal that was rewritten is a literal still, and it is
written canonically; a stretch that was none stays none. So a text without padding has no padding to
drop (`trimZeros_trimZeros`).

Only digits and dots can change, and none of them is a blank: a trimmed text without its padding is
trimmed (`trim_trimZeros`), and it is empty only if it was empty before (`trimZeros_eq_empty_iff`).

The three facts are what is asked of a text that is kept for later use: that it may be treated again
without harm. For literals the reason is one of values. Leading zeros do not count for the value of
a group (`digitsValue_unpadded`), so a group without them writes the same octet, and the canonical
text writes the same address; as that address has one canonical text, there is nothing to change.

For whole texts there is one more thing to see. A stretch of the shortened text must be a stretch of
the original, since otherwise a literal might appear where two stretches have come together. It is,
because the byte behind a stretch is neither digit nor dot, and stays (`clear_withoutPadding`).
-/

namespace AccessPoint

open Ascii Ipv4

namespace Ipv4

variable {o : UInt8} {g : List UInt8} {ip : Ipv4}

/-- Leading zeros do not count for the value. -/
theorem digitsValue_unpadded (g : List UInt8) : digitsValue (unpadded g) = digitsValue g := by
  fun_induction unpadded g with
  | case1 c g ih => exact ih
  | case2 => rfl
  | case3 => rfl

/-- An octet without its leading zeros is the same octet. -/
theorem IsOctet.unpadded (h : IsOctet o g) : IsOctet o (unpadded g) := by
  obtain ⟨k, hk⟩ := exists_zeros_append_unpadded g
  have hlen := congrArg List.length hk
  rw [List.length_append] at hlen
  have hle := h.length_le
  constructor
  case digits =>
    intro b hb
    refine h.digits b ?_
    rw [hk]
    exact List.mem_append_right _ hb
  case ne_nil => exact unpadded_ne_nil h.ne_nil
  case length_le => omega
  case value => rw [digitsValue_unpadded, h.value]

/-- The canonical text of an address writes the address, if any bytes do. -/
theorem IsQuad.isQuad_text {s : List UInt8} (h : IsQuad ip s) : IsQuad ip (Text.utf8 ip.text) := by
  obtain ⟨a, b, c, d, -, ha, hb, hc, hd⟩ := h
  exact ⟨_, _, _, _, Ipv4.utf8_text ha hb hc hd, ha.unpadded, hb.unpadded, hc.unpadded, hd.unpadded⟩

end Ipv4

namespace Zeros.Plain

variable {s : List UInt8} {b : UInt8}

/-- A stretch that was rewritten is canonical. -/
theorem trimStretch_trimStretch (s : List UInt8) : trimStretch (trimStretch s) = trimStretch s := by
  cases h : literal? s with
  | none => rw [trimStretch_of_eq_none h, trimStretch_of_eq_none h]
  | some ip =>
    have hquad : IsQuad ip s := literal?_eq_some_iff.1 h
    rw [trimStretch_of_literal? h,
      trimStretch_of_literal? (literal?_eq_some_iff.2 hquad.isQuad_text)]

/-- Where no stretch began, none begins now. -/
theorem clear_withoutPadding (h : Clear s) : Clear (withoutPadding s) := by
  rw [Clear, head?_withoutPadding_of_clear h]
  exact h

/-- There is no padding where the padding was dropped. -/
theorem withoutPadding_withoutPadding (s : List UInt8) :
    withoutPadding (withoutPadding s) = withoutPadding s := by
  induction s using induction_stretches isQuadByte with
  | nil => rfl
  | other b s hb ih => rw [withoutPadding_cons hb, withoutPadding_cons hb, ih]
  | stretch r s _ hr hs ih =>
    -- the stretch is one still, since it ends where it ended
    have hquad : ∀ b ∈ trimStretch r, isQuadByte b := fun b hb ↦ hr b (mem_of_mem_trimStretch hb)
    rw [withoutPadding_append_of_quadBytes hr hs,
      withoutPadding_append_of_quadBytes hquad (clear_withoutPadding hs),
      trimStretch_trimStretch, ih]

/-- Digits and dots lie above the space. -/
theorem isQuadByte_eq_false_of_not_lt (h : ¬0x20 < b) : isQuadByte b = false := by
  rw [UInt8.lt_iff_toNat_lt] at h
  change ¬32 < b.toNat at h
  rw [isQuadByte, isDigit, Bool.or_eq_false_iff, Bool.and_eq_false_iff, decide_eq_false_iff_not,
    decide_eq_false_iff_not, beq_eq_false_iff_ne, UInt8.le_iff_toNat_le]
  constructor
  · refine .inl ?_
    change ¬48 ≤ b.toNat
    omega
  · rintro rfl
    exact h (by decide)

end Zeros.Plain

open Zeros.Plain

variable {s : String}

/-- Dropping the padding a second time changes nothing. -/
theorem trimZeros_trimZeros (s : String) : trimZeros (trimZeros s) = trimZeros s := by
  refine Text.utf8_injective ?_
  rw [utf8_trimZeros, utf8_trimZeros, withoutPadding_withoutPadding]

theorem trimZeros_eq_empty_iff : trimZeros s = "" ↔ s = "" := by
  have hnil : ∀ t : String, t = "" ↔ Text.utf8 t = [] := fun t ↦
    ⟨fun h ↦ by rw [h]; rfl, fun h ↦ Text.utf8_injective h⟩
  rw [hnil, utf8_trimZeros, withoutPadding_eq_nil_iff, hnil]

/-- A trimmed text without its padding is trimmed. -/
theorem trim_trimZeros (h : Text.trim s = s) : Text.trim (trimZeros s) = trimZeros s := by
  rw [Text.trim_eq_self_iff] at h ⊢
  obtain ⟨hhead, hlast⟩ := h
  rw [utf8_trimZeros]
  -- a blank at an end would be no digit and no dot, and so have stood there before
  constructor
  · intro b hb
    by_contra hblank
    exact hblank (hhead b (head?_eq_of_withoutPadding (isQuadByte_eq_false_of_not_lt hblank) hb))
  · intro b hb
    by_contra hblank
    exact hblank
      (hlast b (getLast?_eq_of_withoutPadding (isQuadByte_eq_false_of_not_lt hblank) hb))

end AccessPoint

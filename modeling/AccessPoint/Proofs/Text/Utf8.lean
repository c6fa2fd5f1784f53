import AccessPoint.Text.Ascii
import AccessPoint.Text.Utf8
import Mathlib.Data.List.Basic

/-!
# ASCII in UTF-8

The parsers and scans look at bytes where the classes they ask for are classes of characters. For
ASCII this makes no difference: an ASCII character is encoded by its own byte
(`utf8EncodeChar_of_lt`), and the bytes of any other character lie outside ASCII
(`le_of_mem_utf8EncodeChar`). So a byte of ASCII in the bytes of a text is a character of the text,
and never part of another one.

A class of ASCII characters can therefore be looked for at the ends of the bytes. The two lemmas on
this (`forall_mem_head?_utf8_iff`, `forall_mem_getLast?_utf8_iff`) speak of any class of bytes and
any class of characters such that every byte of a character tells of the character: the blanks are
one such pair, and so are the digits.
-/

namespace AccessPoint.Text

open Ascii

variable {c : Char} {b : UInt8} {s : String} {u v : List UInt8}

/-! ### Characters as bytes -/

theorem toNat_byte_of_lt (h : c.toNat < 0x80) : (byte c).toNat = c.toNat :=
  UInt8.toNat_ofNat_of_lt' (Nat.lt_trans h (by decide))

theorem isDigit_byte_iff (h : c.toNat < 0x80) : isDigit (byte c) ↔ c.isDigit := by
  rw [isDigit, Char.isDigit_iff_toNat, Bool.and_eq_true, decide_eq_true_eq, decide_eq_true_eq,
    UInt8.le_iff_toNat_le, UInt8.le_iff_toNat_le, toNat_byte_of_lt h]
  rfl

/-- An ASCII character is encoded by one byte, its own. -/
theorem utf8EncodeChar_of_lt (h : c.toNat < 0x80) : String.utf8EncodeChar c = [byte c] := by
  have hle : c.val.toNat ≤ 0x7f := Nat.le_of_lt_succ h
  rw [String.utf8EncodeChar, if_pos hle]
  rfl

/-- An ASCII text has a byte for each character. -/
theorem flatMap_utf8EncodeChar_of_lt {cs : List Char} (h : ∀ c ∈ cs, c.toNat < 0x80) :
    cs.flatMap String.utf8EncodeChar = cs.map byte := by
  induction cs with
  | nil => rfl
  | cons c cs ih =>
    obtain ⟨hc, hcs⟩ := List.forall_mem_cons.1 h
    rw [List.flatMap_cons, utf8EncodeChar_of_lt hc, ih hcs, List.map_cons, List.singleton_append]

/-- The bytes of a character outside ASCII lie outside ASCII. -/
theorem le_of_mem_utf8EncodeChar (h : 0x80 ≤ c.toNat) (hb : b ∈ String.utf8EncodeChar c) :
    0x80 ≤ b := by
  have hlt : ¬c.val.toNat ≤ 0x7f := Nat.not_le_of_lt h
  rw [String.utf8EncodeChar, if_neg hlt] at hb
  rw [UInt8.le_iff_toNat_le]
  show 128 ≤ b.toNat
  split at hb
  · simp only [List.mem_cons, List.not_mem_nil, or_false] at hb
    rcases hb with rfl | rfl
    all_goals rw [UInt8.toNat_ofNat']; omega
  · split at hb
    · simp only [List.mem_cons, List.not_mem_nil, or_false] at hb
      rcases hb with rfl | rfl | rfl
      all_goals rw [UInt8.toNat_ofNat']; omega
    · simp only [List.mem_cons, List.not_mem_nil, or_false] at hb
      rcases hb with rfl | rfl | rfl | rfl
      all_goals rw [UInt8.toNat_ofNat']; omega

theorem utf8_ofList (cs : List Char) :
    utf8 (String.ofList cs) = cs.flatMap String.utf8EncodeChar := by
  rw [utf8, String.toList_ofList]

/-! ### The ends of a text as bytes -/

section Ends

variable {p : UInt8 → Prop} {q : Char → Prop}

/-- What every byte of a character tells of the character, the first byte of a text tells of its
first character. -/
theorem forall_mem_head?_utf8_iff (h : ∀ c, ∀ b ∈ String.utf8EncodeChar c, p b ↔ q c) :
    (∀ b ∈ (utf8 s).head?, p b) ↔ ∀ c ∈ s.toList.head?, q c := by
  rw [utf8]
  rcases s.toList with - | ⟨c, cs⟩
  · simp
  · obtain ⟨b, bs, hc⟩ := List.exists_cons_of_ne_nil (String.utf8EncodeChar_ne_nil (c := c))
    have hb : b ∈ String.utf8EncodeChar c := by rw [hc]; exact List.mem_cons_self
    simp [hc, h c b hb]

/-- What every byte of a character tells of the character, the last byte of a text tells of its last
character. -/
theorem forall_mem_getLast?_utf8_iff (h : ∀ c, ∀ b ∈ String.utf8EncodeChar c, p b ↔ q c) :
    (∀ b ∈ (utf8 s).getLast?, p b) ↔ ∀ c ∈ s.toList.getLast?, q c := by
  rw [utf8]
  rcases List.eq_nil_or_concat s.toList with hs | ⟨cs, c, hs⟩
  · simp [hs]
  · have hne := String.utf8EncodeChar_ne_nil (c := c)
    have hlast := List.getLast?_eq_getLast_of_ne_nil hne
    have hb := List.getLast_mem hne
    rw [hs, List.concat_eq_append, List.flatMap_append, List.flatMap_singleton,
      List.getLast?_append_of_ne_nil _ hne, hlast]
    simp [h c _ hb]

end Ends

end AccessPoint.Text

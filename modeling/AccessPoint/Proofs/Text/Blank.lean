import AccessPoint.Proofs.Text.Utf8
import AccessPoint.Text.Blank
import Mathlib.Data.List.DropRight

/-!
# Stripped texts

`strip` takes the characters of a class from both ends of a list of characters, and the project
reads every field of a row, every entry of a list of types and every value of a configuration
through it. Three facts say what it does, for any class:

* what is taken stands at the ends and is of the class (`exists_append_strip_append`);
* none of the class is left at either end (`eq_false_of_mem_head?_strip`,
  `eq_false_of_mem_getLast?_strip`);
* a list stays as it is exactly when none of the class stands at either end (`strip_eq_self_iff`).

The third follows from the second, and gives at once that stripping twice is stripping once
(`strip_strip`).

Two classes are used. `trim` takes the blanks, which are the characters up to the space, and
`trimSpace` the white space of Unicode; neither holds all of the other. The same facts about both
are therefore stated for texts, once for any class and then for each of the two. A field counts as
present when something is left of it (`present?_of_forall_isBlank`,
`present?_of_not_forall_isBlank`), and what is present is trimmed (`trim_of_present?`), so that a
value that was read once may be read again.

Blanks are ASCII. So whether a text is trimmed can be seen from its first and its last byte
(`trim_eq_self_iff`), which is the form in which the parsers of references need it: they work on
bytes.
-/

namespace AccessPoint.Text

variable {c : Char} {b : UInt8} {s : String}

/-! ### Both ends -/

section Strip

variable {p : Char → Bool} {cs : List Char}

/-- No character of the class is left in front. -/
theorem eq_false_of_mem_head?_strip (hc : c ∈ (strip p cs).head?) : p c = false := by
  have hfront : strip p cs <+: cs.dropWhile p := List.rdropWhile_prefix p _
  obtain ⟨t, ht⟩ := hfront
  have hhead : (cs.dropWhile p).head? = some c := by
    rw [← ht, List.head?_append, hc, Option.some_or]
  have hnot := List.head?_dropWhile_not p cs
  rwa [hhead] at hnot

/-- No character of the class is left behind. -/
theorem eq_false_of_mem_getLast?_strip (hc : c ∈ (strip p cs).getLast?) : p c = false := by
  obtain ⟨hne, rfl⟩ := List.mem_getLast?_eq_getLast hc
  have hnot : ¬p ((strip p cs).getLast hne) := List.rdropWhile_last_not p (cs.dropWhile p) hne
  simpa using hnot

/-- What is stripped stands at the ends and is of the class. -/
theorem exists_append_strip_append (p : Char → Bool) (cs : List Char) :
    ∃ left right, (∀ c ∈ left, p c) ∧ (∀ c ∈ right, p c) ∧ left ++ strip p cs ++ right = cs := by
  refine ⟨cs.takeWhile p, (cs.dropWhile p).rtakeWhile p, fun c hc ↦ List.mem_takeWhile_imp hc,
    fun c hc ↦ List.mem_rtakeWhile_imp hc, ?_⟩
  have hback : strip p cs ++ (cs.dropWhile p).rtakeWhile p = cs.dropWhile p :=
    List.rdropWhile_append_rtakeWhile
  rw [List.append_assoc, hback, List.takeWhile_append_dropWhile]

/-- Stripping puts nothing in. -/
theorem mem_of_mem_strip (h : c ∈ strip p cs) : c ∈ cs := by
  obtain ⟨left, right, -, -, hcs⟩ := exists_append_strip_append p cs
  rw [← hcs]
  exact List.mem_append_left _ (List.mem_append_right _ h)

/-- Nothing is left exactly when all is of the class. -/
theorem strip_eq_nil_iff : strip p cs = [] ↔ ∀ c ∈ cs, p c := by
  constructor
  · intro h
    obtain ⟨left, right, hleft, hright, hcs⟩ := exists_append_strip_append p cs
    rw [h, List.append_nil] at hcs
    rw [← hcs]
    exact List.forall_mem_append.2 ⟨hleft, hright⟩
  · intro h
    rw [← List.append_nil cs, strip_append_left h]
    rfl

/-- A list stays as it is exactly when no character of the class stands at either end. -/
theorem strip_eq_self_iff :
    strip p cs = cs ↔ (∀ c ∈ cs.head?, p c = false) ∧ ∀ c ∈ cs.getLast?, p c = false := by
  constructor
  · intro h
    rw [← h]
    exact ⟨fun c hc ↦ eq_false_of_mem_head?_strip hc,
      fun c hc ↦ eq_false_of_mem_getLast?_strip hc⟩
  · intro h
    obtain ⟨hhead, hlast⟩ := h
    have hfront : cs.dropWhile p = cs := by
      rw [List.dropWhile_eq_self_iff]
      intro hlen
      rw [hhead cs[0] (List.head?_eq_getElem?.trans (List.getElem?_eq_getElem hlen))]
      exact Bool.false_ne_true
    have hback : cs.rdropWhile p = cs := by
      rw [List.rdropWhile_eq_self_iff]
      intro hne
      rw [hlast _ (List.getLast?_eq_getLast_of_ne_nil hne)]
      exact Bool.false_ne_true
    show (cs.dropWhile p).rdropWhile p = cs
    rw [hfront, hback]

/-- Once stripped, there is nothing more to strip. -/
theorem strip_strip (p : Char → Bool) (cs : List Char) : strip p (strip p cs) = strip p cs :=
  strip_eq_self_iff.2 ⟨fun _ hc ↦ eq_false_of_mem_head?_strip hc,
    fun _ hc ↦ eq_false_of_mem_getLast?_strip hc⟩

/-- Characters outside the class are not stripped. -/
theorem strip_eq_self_of_forall (h : ∀ c ∈ cs, p c = false) : strip p cs = cs :=
  strip_eq_self_iff.2 ⟨fun c hc ↦ h c (List.mem_of_mem_head? hc),
    fun c hc ↦ h c (List.mem_of_mem_getLast? hc)⟩

end Strip

/-! ### Trimmed texts -/

/-- A text stays as it is when it is stripped exactly if no character of the class stands at either
end. -/
theorem ofList_strip_eq_self_iff {p : Char → Bool} : String.ofList (strip p s.toList) = s ↔
    (∀ c ∈ s.toList.head?, p c = false) ∧ ∀ c ∈ s.toList.getLast?, p c = false := by
  rw [← String.toList_inj, String.toList_ofList, strip_eq_self_iff]

theorem ofList_strip_eq_empty_iff {p : Char → Bool} :
    String.ofList (strip p s.toList) = "" ↔ ∀ c ∈ s.toList, p c := by
  rw [← String.toList_eq_nil_iff, String.toList_ofList, strip_eq_nil_iff]

theorem trim_eq_self_iff_ends : trim s = s ↔
    (∀ c ∈ s.toList.head?, isBlank c = false) ∧ ∀ c ∈ s.toList.getLast?, isBlank c = false :=
  ofList_strip_eq_self_iff

theorem trim_eq_empty_iff : trim s = "" ↔ ∀ c ∈ s.toList, isBlank c := ofList_strip_eq_empty_iff

theorem trimSpace_eq_self_iff : trimSpace s = s ↔
    (∀ c ∈ s.toList.head?, isSpace c = false) ∧ ∀ c ∈ s.toList.getLast?, isSpace c = false :=
  ofList_strip_eq_self_iff

/-- A text is blank in the sense of Unicode exactly when it is white space throughout. -/
theorem trimSpace_eq_empty_iff : trimSpace s = "" ↔ ∀ c ∈ s.toList, isSpace c :=
  ofList_strip_eq_empty_iff

theorem trim_eq_self_iff_strip : trim s = s ↔ strip isBlank s.toList = s.toList := by
  rw [trim, ← String.toList_inj, String.toList_ofList]

theorem trim_trim (s : String) : trim (trim s) = trim s := by
  rw [trim_eq_self_iff_strip, trim, String.toList_ofList, strip_strip]

/-- A field of blanks counts as absent. -/
theorem present?_of_forall_isBlank (h : ∀ c ∈ s.toList, isBlank c) : present? (some s) = none := by
  rw [present?, Option.map_some, trim_eq_empty_iff.2 h, Option.filter_some]
  rfl

/-- A text with something but blanks in it is present as what trimming leaves. -/
theorem present?_of_not_forall_isBlank (h : ¬∀ c ∈ s.toList, isBlank c) :
    present? (some s) = some (trim s) := by
  rw [present?, Option.map_some, Option.filter_some,
    if_pos (decide_eq_true (trim_eq_empty_iff.not.2 h))]

/-- What is trimmed are the blanks at the ends. -/
theorem exists_append_trim_append (s : String) :
    ∃ left right : String, (∀ c ∈ left.toList, isBlank c) ∧ (∀ c ∈ right.toList, isBlank c) ∧
      left ++ trim s ++ right = s := by
  obtain ⟨left, right, hleft, hright, hs⟩ := exists_append_strip_append isBlank s.toList
  refine ⟨.ofList left, .ofList right, by simpa using hleft, by simpa using hright, ?_⟩
  rw [← String.toList_inj, ← hs]
  simp [trim]

/-- Blanks put around a text do not change what trimming makes of it. -/
theorem trim_append_append {left right : String} (hleft : ∀ c ∈ left.toList, isBlank c)
    (hright : ∀ c ∈ right.toList, isBlank c) : trim (left ++ s ++ right) = trim s := by
  rw [trim, trim, String.toList_append, String.toList_append, strip_append_right hright,
    strip_append_left hleft]

/-- A text that is trimmed reads as present unless it is empty. -/
theorem present?_of_trim (h : trim s = s) (hne : s ≠ "") : present? (some s) = some s := by
  rw [present?, Option.map_some, h, Option.filter_some, if_pos (decide_eq_true hne)]

/-- What is present is trimmed. -/
theorem trim_of_present? {v : Option String} (h : present? v = some s) : trim s = s := by
  obtain ⟨t, -, rfl⟩ := Option.map_eq_some_iff.1 (Option.filter_eq_some_iff.1 h).1
  exact trim_trim t

/-- A number in decimal has no blanks to trim. -/
theorem present?_repr (n : Nat) : present? (some (Nat.repr n)) = some (Nat.repr n) := by
  have hdigit : ∀ c ∈ Nat.toDigits 10 n, isBlank c = false := by
    intro c hc
    have h := Nat.isDigit_of_mem_toDigits (by omega) (Nat.le_refl 10) hc
    rw [Char.isDigit, Bool.and_eq_true, decide_eq_true_eq] at h
    have hle : 48 ≤ c.toNat := h.1
    rw [isBlank, decide_eq_false_iff_not]
    omega
  refine present?_of_trim ?_ ?_
  · rw [trim_eq_self_iff_strip, Nat.toList_repr, strip_eq_self_of_forall hdigit]
  · rw [Ne, ← String.toList_eq_nil_iff, Nat.toList_repr]
    exact Nat.toDigits_ne_nil

/-! ### Blanks as bytes -/

/-- Every byte of a character tells whether the character is a blank. -/
theorem isBlank_eq_false_iff (hb : b ∈ String.utf8EncodeChar c) : isBlank c = false ↔ 0x20 < b := by
  rw [isBlank, decide_eq_false_iff_not, Nat.not_le, UInt8.lt_iff_toNat_lt]
  show 32 < c.toNat ↔ 32 < b.toNat
  rcases Nat.lt_or_ge c.toNat 0x80 with hc | hc
  · rw [utf8EncodeChar_of_lt hc, List.mem_singleton] at hb
    rw [hb, toNat_byte_of_lt hc]
  · -- outside ASCII, neither the character nor its bytes are small enough
    have hle : 0x80 ≤ b := le_of_mem_utf8EncodeChar hc hb
    rw [UInt8.le_iff_toNat_le] at hle
    change 128 ≤ b.toNat at hle
    omega

/-- A text stays as it is when it is trimmed exactly if its first and its last byte lie above the
space. -/
theorem trim_eq_self_iff :
    trim s = s ↔ (∀ b ∈ (utf8 s).head?, 0x20 < b) ∧ ∀ b ∈ (utf8 s).getLast?, 0x20 < b := by
  have hbyte : ∀ c, ∀ b ∈ String.utf8EncodeChar c, 0x20 < b ↔ isBlank c = false :=
    fun _ _ hb ↦ (isBlank_eq_false_iff hb).symm
  rw [trim_eq_self_iff_ends, forall_mem_head?_utf8_iff hbyte, forall_mem_getLast?_utf8_iff hbyte]

end AccessPoint.Text

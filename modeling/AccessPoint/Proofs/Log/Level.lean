import AccessPoint.Log.Level
import AccessPoint.Proofs.Lists
import AccessPoint.Proofs.Text.Numeral

/-!
# Texts that denote a level

What a text denotes is said without reading it: it is the name of the level, in letters of either
case, or a numeral for its rank, which may have a plus sign and leading zeros (`Level.Denotes`). No
text is both a name and a numeral (`Level.not_denotes_of_sameLetters`), so the order in which the
two are tried does not matter, and reading answers the level that is denoted
(`Level.ofText?_eq_some_iff`). With the spaces around a text taken off, this is what `parse` does
(`Level.parse_eq_ok_iff`); the error names the text with its spaces (`Level.parse_eq_error_iff`).

Names are compared in capitals, while `SameLetters` speaks of small letters, as one compares names
without regard to case. The two agree because small letters and capitals lie 32 places apart
(`Text.toNat_toLower`, `Text.toNat_toUpper`), so characters have the same capital exactly if they
have the same small letter (`Text.toUpper_eq_toUpper_iff`). This is arithmetic on code points, and
does not go through the letters one by one.

A level is found in the list of all by its rank or by its name. Both tell the levels apart
(`Level.nodup_rank`, `Level.nodup_label`), which is all that either search needs.
-/

namespace AccessPoint

/-! ### Letters of either case -/

namespace Text

variable {c d : Char}

/-- A small letter comes 32 places after its capital. -/
theorem toNat_toLower (c : Char) :
    c.toLower.toNat = if 0x41 ≤ c.toNat ∧ c.toNat ≤ 0x5A then c.toNat + 0x20 else c.toNat := by
  have hcapital : (c.val ≥ 'A'.val ∧ c.val ≤ 'Z'.val) ↔ 0x41 ≤ c.toNat ∧ c.toNat ≤ 0x5A := by
    simp [UInt32.le_iff_toNat_le]
  have hshift : ('a'.val - 'A'.val).toNat = 0x20 := by decide
  by_cases h : c.val ≥ 'A'.val ∧ c.val ≤ 'Z'.val
  · have hval : c.toLower.val = c.val + ('a'.val - 'A'.val) := by
      delta Char.toLower
      rw [dif_pos h]
    rw [if_pos (hcapital.1 h), ← Char.toNat_val, hval, UInt32.toNat_add, hshift, Char.toNat_val]
    have hle := (hcapital.1 h).2
    omega
  · rw [if_neg (mt hcapital.2 h)]
    exact congrArg Char.toNat (dif_neg h)

/-- A capital comes 32 places before its small letter. -/
theorem toNat_toUpper (c : Char) :
    c.toUpper.toNat = if 0x61 ≤ c.toNat ∧ c.toNat ≤ 0x7A then c.toNat - 0x20 else c.toNat := by
  have hsmall : ('a'.val ≤ c.val ∧ c.val ≤ 'z'.val) ↔ 0x61 ≤ c.toNat ∧ c.toNat ≤ 0x7A := by
    simp [UInt32.le_iff_toNat_le]
  have hshift : ('A'.val - 'a'.val).toNat = 2 ^ 32 - 0x20 := by decide
  by_cases h : 'a'.val ≤ c.val ∧ c.val ≤ 'z'.val
  · have hval : c.toUpper.val = c.val + ('A'.val - 'a'.val) := by
      delta Char.toUpper
      rw [dif_pos h]
    rw [if_pos (hsmall.1 h), ← Char.toNat_val, hval, UInt32.toNat_add, hshift, Char.toNat_val]
    have hle := hsmall.1 h
    omega
  · rw [if_neg (mt hsmall.2 h)]
    exact congrArg Char.toNat (dif_neg h)

/-- Characters have the same capital exactly if they have the same small letter. -/
theorem toUpper_eq_toUpper_iff : c.toUpper = d.toUpper ↔ c.toLower = d.toLower := by
  rw [← Char.toNat_inj, ← Char.toNat_inj, toNat_toUpper, toNat_toUpper, toNat_toLower,
    toNat_toLower]
  grind

/-- A digit is no letter, and has no other case. -/
theorem toLower_of_isDigit (h : c.isDigit) : c.toLower = c := by
  have hle : c.toNat ≤ 0x39 := (Char.isDigit_iff_toNat.1 h).2
  rw [← Char.toNat_inj, toNat_toLower, if_neg]
  omega

/-- The texts differ at most in the case of ASCII letters. -/
def SameLetters (s t : String) : Prop := s.toList.map Char.toLower = t.toList.map Char.toLower

instance (s t : String) : Decidable (SameLetters s t) :=
  inferInstanceAs (Decidable (_ = _))

/-- Against a text in capitals, it is enough to capitalise the other one. -/
theorem sameLetters_iff_map_toUpper {s t : String}
    (ht : t.toList.map Char.toUpper = t.toList) :
    SameLetters s t ↔ s.toList.map Char.toUpper = t.toList := by
  have hmap : ∀ f : Char → Char, s.toList.map f = t.toList.map f ↔
      List.Forall₂ (fun c d ↦ f c = f d) s.toList t.toList := by
    intro f
    rw [← List.forall₂_eq_eq_eq, List.forall₂_map_left_iff, List.forall₂_map_right_iff]
  calc SameLetters s t
      ↔ List.Forall₂ (fun c d : Char ↦ c.toLower = d.toLower) s.toList t.toList := hmap Char.toLower
    _ ↔ List.Forall₂ (fun c d : Char ↦ c.toUpper = d.toUpper) s.toList t.toList := by
        simp only [toUpper_eq_toUpper_iff]
    _ ↔ s.toList.map Char.toUpper = t.toList.map Char.toUpper := (hmap Char.toUpper).symm
    _ ↔ s.toList.map Char.toUpper = t.toList := by rw [ht]

end Text

/-! ### Names and numerals of levels -/

namespace Log.Level

open Text (SameLetters)

variable {l m : Level} {s : String} {n : Nat}

/-- The text denotes the level: it is its name, in letters of either case, or a numeral for its
rank. -/
inductive Denotes (s : String) (l : Level) : Prop
  | name (h : SameLetters s l.label)
  | numeral (h : Text.Numeral.Denotes s l.rank)

theorem mem_all (l : Level) : l ∈ all := by rcases l <;> decide

/-- Levels are told apart by rank. -/
theorem nodup_rank : (all.map rank).Nodup := by decide

/-- Levels are told apart by name. -/
theorem nodup_label : (all.map fun l ↦ l.label.toList).Nodup := by decide

theorem rank_le_numeralLimit (l : Level) : l.rank ≤ numeralLimit := by rcases l <;> decide

/-- The names of levels are in capitals, so a text is one when it is capitalised. -/
theorem sameLetters_label_iff :
    SameLetters s l.label ↔ s.toList.map Char.toUpper = l.label.toList :=
  Text.sameLetters_iff_map_toUpper (by rcases l <;> decide)

/-- A name is no numeral, since there is no digit in it. -/
theorem not_denotes_of_sameLetters (h : SameLetters s l.label) : ¬Text.Numeral.Denotes s n := by
  have hletter : ((l.label.toList.map Char.toLower).any Char.isDigit) = false := by
    rcases l <;> decide
  intro hn
  obtain ⟨ds, hne, hdig, hs, -⟩ := hn
  obtain ⟨c, hc⟩ := List.exists_mem_of_ne_nil ds hne
  have hmem : c ∈ s.toList := by
    rcases hs with hs | hs <;> rw [hs]
    · exact hc
    · exact List.mem_cons_of_mem _ hc
  have hlower : c.toLower ∈ s.toList.map Char.toLower := List.mem_map_of_mem hmem
  rw [h, Text.toLower_of_isDigit (hdig c hc)] at hlower
  exact List.any_eq_false.1 hletter c hlower (hdig c hc)

/-- Reading a text answers the level that it denotes. -/
theorem ofText?_eq_some_iff : ofText? s = some l ↔ Denotes s l := by
  rw [ofText?]
  split
  · next n hread =>
    -- the text is a numeral, and so no name
    have hn : Text.Numeral.Denotes s n := (Text.Numeral.read_eq_ok_iff.1 hread).1
    rw [find?_beq_eq_some_iff nodup_rank, and_iff_right l.mem_all]
    constructor
    · rintro rfl
      exact .numeral hn
    · rintro (hname | hnumeral)
      · exact absurd hn (not_denotes_of_sameLetters hname)
      · have hrank := Text.Numeral.read_eq_ok_iff.2 ⟨hnumeral, l.rank_le_numeralLimit⟩
        exact Except.ok.inj (hrank.symm.trans hread)
  · next f hread =>
    -- the text is no numeral within the limit, and so none for a rank
    refine (find?_beq_eq_some_iff nodup_label).trans ?_
    rw [and_iff_right l.mem_all, eq_comm, ← sameLetters_label_iff]
    constructor
    · exact .name
    · rintro (hname | hnumeral)
      · exact hname
      · exact absurd hnumeral
          (Text.Numeral.not_denotes_of_read_eq_error hread _ l.rank_le_numeralLimit)

/-- No text denotes two levels. -/
theorem Denotes.unique (hl : Denotes s l) (hm : Denotes s m) : l = m :=
  Option.some.inj ((ofText?_eq_some_iff.2 hl).symm.trans (ofText?_eq_some_iff.2 hm))

/-- Reading answers the level that is denoted, spaces around it aside. -/
theorem parse_eq_ok_iff : parse s = .ok l ↔ Denotes (Text.trimSpace s) l := by
  rw [← ofText?_eq_some_iff, parse]
  split
  · next m hm => rw [hm, Except.ok.injEq, Option.some_inj]
  · next hnone => simp [hnone]

/-- Where no level is denoted, the error names the text with the spaces around it. -/
theorem parse_eq_error_iff {e : Error} :
    parse s = .error e ↔ (∀ l, ¬Denotes (Text.trimSpace s) l) ∧ e = .config (.level s) := by
  simp only [← ofText?_eq_some_iff]
  rw [parse]
  split
  · next m hm => simp [hm]
  · next hnone => simp [hnone, eq_comm]

end Log.Level

end AccessPoint

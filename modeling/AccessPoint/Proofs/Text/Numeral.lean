import AccessPoint.Text.Numeral

/-!
# What numerals denote

`Numeral.read` goes through the digits one by one and compares what it has read so far with the
limit at each, as the reading of an unsigned integer of a fixed width does. `Denotes` says without a
limit and without an order of reading which number a text stands for; reading succeeds exactly on
the numerals within the limit (`read_eq_ok_iff`). One fact carries the induction: digits never take
a value back below one that was reached (`le_ofDigitChars`), so that a limit passed early is passed
at the end.

Reading fails for one of two faults, and the two are not told apart by whether the text is a
numeral: "99999x" is none, but the limit is passed before the letter is seen. Where it fails, the
value of the digits in front of the first other character (`leadingValue`) tells for which fault
(`read_eq_tooLarge_iff`, `fault_of_read_eq_error`).

Ports are read with the limit 65535, and the same reader serves the numerals of log levels and the
integers of a JSON text; `read_repr` says that a number within the limit survives being written in
decimal.
-/

namespace AccessPoint.Text.Numeral

variable {limit m n : Nat} {s : String} {cs ds : List Char}

/-- The text is a numeral for `n`: an optional plus sign and one or more decimal digits. -/
def Denotes (s : String) (n : Nat) : Prop :=
  ∃ ds : List Char, ds ≠ [] ∧ (∀ c ∈ ds, c.isDigit) ∧ (s.toList = ds ∨ s.toList = '+' :: ds) ∧
    Nat.ofDigitChars 10 ds 0 = n

/-- A text without digits is no numeral. -/
theorem not_denotes_empty (n : Nat) : ¬Denotes "" n := by
  intro h
  obtain ⟨ds, hne, -, hs | hs, -⟩ := h
  · exact hne hs.symm
  · cases hs

/-- Digits never take a value back below one that was reached. -/
theorem le_ofDigitChars (ds : List Char) (m : Nat) : m ≤ Nat.ofDigitChars 10 ds m := by
  induction ds generalizing m with
  | nil => exact Nat.le_of_eq Nat.ofDigitChars_nil.symm
  | cons c ds ih =>
    rw [Nat.ofDigitChars_cons]
    have := ih (10 * m + (c.toNat - '0'.toNat))
    omega

/-- Behind a value within the limit, digits are read exactly if all are digits and their value stays
within the limit. -/
theorem readDigits_eq_ok_iff (hm : m ≤ limit) :
    readDigits limit m cs = .ok n ↔
      (∀ c ∈ cs, c.isDigit) ∧ Nat.ofDigitChars 10 cs m = n ∧ n ≤ limit := by
  induction cs generalizing m with
  | nil =>
    simp only [readDigits, Except.ok.injEq, Nat.ofDigitChars_nil, List.not_mem_nil,
      false_implies, implies_true, true_and]
    exact ⟨fun h ↦ ⟨h, h ▸ hm⟩, fun h ↦ h.1⟩
  | cons c cs ih =>
    rw [readDigits, List.forall_mem_cons, Nat.ofDigitChars_cons]
    by_cases hc : c.isDigit
    · have hle := le_ofDigitChars cs (10 * m + (c.toNat - '0'.toNat))
      by_cases hl : 10 * m + digitValue c ≤ limit
      · simp only [hc, if_true, hl, true_and]
        exact ih hl
      · -- the limit is passed at `c`, and the value of all digits is no smaller
        have hno : ¬(Nat.ofDigitChars 10 cs (10 * m + (c.toNat - '0'.toNat)) = n ∧ n ≤ limit) := by
          intro h
          obtain ⟨rfl, hn⟩ := h
          exact hl (Nat.le_trans hle hn)
        simp only [hc, if_true, hl, if_false, true_and, reduceCtorEq, false_iff]
        exact fun h ↦ hno h.2
    · simp [hc]

/-- Reading succeeds exactly on the numerals within the limit. -/
theorem read_eq_ok_iff : read limit s = .ok n ↔ Denotes s n ∧ n ≤ limit := by
  have hread : ∀ ds : List Char,
      (if ds.isEmpty then .error .notDigit else readDigits limit 0 ds) = .ok n ↔
        ds ≠ [] ∧ (∀ c ∈ ds, c.isDigit) ∧ Nat.ofDigitChars 10 ds 0 = n ∧ n ≤ limit := by
    intro ds
    by_cases hds : ds = []
    · simp [hds]
    · simp only [List.isEmpty_iff, hds, if_false, ne_eq, not_false_eq_true, true_and]
      exact readDigits_eq_ok_iff (Nat.zero_le _)
  have hplus : '+'.isDigit = false := by decide
  constructor
  · intro h
    rw [read] at h
    split at h
    · next cs hs =>
      obtain ⟨hne, hdig, hval, hle⟩ := (hread cs).1 h
      exact ⟨⟨cs, hne, hdig, .inr hs, hval⟩, hle⟩
    · next hs =>
      obtain ⟨hne, hdig, hval, hle⟩ := (hread _).1 h
      exact ⟨⟨_, hne, hdig, .inl rfl, hval⟩, hle⟩
  · intro h
    obtain ⟨⟨ds, hne, hdig, hs, hval⟩, hle⟩ := h
    rw [read]
    have hok := (hread ds).2 ⟨hne, hdig, hval, hle⟩
    rcases hs with hs | hs
    · split
      · next cs hcs =>
        have : '+' ∈ ds := by rw [← hs, hcs]; exact List.mem_cons_self
        simp [hdig _ this] at hplus
      · rw [hs]
        exact hok
    · rw [hs]
      exact hok

/-- A text that cannot be read is no numeral within the limit. -/
theorem not_denotes_of_read_eq_error {f : Fault} (h : read limit s = .error f) :
    ∀ n ≤ limit, ¬Denotes s n := by
  intro n hn hd
  rw [read_eq_ok_iff.2 ⟨hd, hn⟩] at h
  cases h

/-- A number within the limit is read back from its decimal text. -/
theorem read_repr (h : n ≤ limit) : read limit (Nat.repr n) = .ok n := by
  refine read_eq_ok_iff.2 ⟨⟨Nat.toDigits 10 n, Nat.toDigits_ne_nil, fun c hc ↦ ?_, ?_, ?_⟩, h⟩
  · exact Nat.isDigit_of_mem_toDigits (by omega) (Nat.le_refl 10) hc
  · exact .inl Nat.toList_repr
  · exact Nat.ofDigitChars_ten_toDigits

/-! ### Which fault is found -/

/-- The characters that are read as digits: those behind a plus sign in front, or all of them. -/
def unsigned (s : String) : List Char :=
  match s.toList with
  | '+' :: cs => cs
  | cs => cs

/-- The value of the digits in front of the first character that is none. -/
def leadingValue (s : String) : Nat :=
  Nat.ofDigitChars 10 ((unsigned s).takeWhile Char.isDigit) 0

/-- The limit is passed exactly if the digits in front of the first other character pass it. -/
theorem readDigits_eq_tooLarge_iff (hm : m ≤ limit) :
    readDigits limit m cs = .error .tooLarge ↔
      limit < Nat.ofDigitChars 10 (cs.takeWhile Char.isDigit) m := by
  induction cs generalizing m with
  | nil =>
    rw [readDigits, List.takeWhile_nil, Nat.ofDigitChars_nil]
    exact iff_of_false (fun h ↦ nomatch h) (Nat.not_lt.2 hm)
  | cons c cs ih =>
    rw [readDigits]
    by_cases hc : c.isDigit
    · rw [if_pos hc, List.takeWhile_cons_of_pos hc, Nat.ofDigitChars_cons]
      by_cases hl : 10 * m + digitValue c ≤ limit
      · simp only [hl, if_true]
        exact ih hl
      · -- the digits behind `c` do not take the value back
        have hle := le_ofDigitChars (cs.takeWhile Char.isDigit) (10 * m + digitValue c)
        simp only [hl, if_false, true_iff]
        exact Nat.lt_of_lt_of_le (Nat.lt_of_not_le hl) hle
    · rw [if_neg hc, List.takeWhile_cons_of_neg hc, Nat.ofDigitChars_nil]
      exact iff_of_false (fun h ↦ nomatch h) (Nat.not_lt.2 hm)

/-- A text is too large exactly if the digits in front of its first other character pass the limit.
-/
theorem read_eq_tooLarge_iff : read limit s = .error .tooLarge ↔ limit < leadingValue s := by
  have hread : read limit s =
      if (unsigned s).isEmpty then .error .notDigit else readDigits limit 0 (unsigned s) := rfl
  rw [hread, leadingValue]
  by_cases hempty : unsigned s = []
  · simp [hempty]
  · rw [if_neg (by simpa using hempty)]
    exact readDigits_eq_tooLarge_iff (Nat.zero_le _)

/-- Of the two faults the digits tell which: they pass the limit before a character comes that is
none, or such a character comes first. -/
theorem fault_of_read_eq_error {f : Fault} (h : read limit s = .error f) :
    f = if limit < leadingValue s then .tooLarge else .notDigit := by
  have hlarge : f = .tooLarge ↔ limit < leadingValue s := by
    rw [← read_eq_tooLarge_iff, h, Except.error.injEq]
  cases f with
  | tooLarge => rw [if_pos (hlarge.1 rfl)]
  | notDigit => rw [if_neg fun hlt ↦ nomatch hlarge.2 hlt]

end AccessPoint.Text.Numeral

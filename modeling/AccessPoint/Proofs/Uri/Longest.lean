import AccessPoint.Uri.Grammar
import Mathlib.Data.List.TakeWhile

/-!
# Longest matches

A recogniser that is greedy and never goes back is right about a language when it answers the
longest prefix in the language, and fails only if there is none: `IsLongest`. The combinators keep
this under conditions on the languages alone.

* A sequence needs its parts to be `Separated`: where a word of the first part can be continued to a
  longer one, the second part cannot begin. In this grammar it nearly always comes from one byte
  that opens the second part and that the first part avoids (`Separated.of_avoids`), or from one
  byte that ends every word of the first part (`Separated.of_closes`).
* A choice needs that no word of the second alternative is longer than what the first one matched.

## Why the weaker statement does not do

That a match is *in* the language is not kept by sequences. The first part may take more than the
word that would have let the second part follow, and then the sequence fails on a text with a prefix
in its language. So the invariant has to say that nothing longer was possible, and of a failure that
nothing was possible at all: these are the four fields of `IsLongest`. It is stated at one text `s`
and not for all texts, because the condition on a choice holds of particular texts only.

## What the conditions are about

`Avoids`, `Opens` and `Closes` speak of one byte and of a language, not of a recogniser. They are
closed under the ways in which the grammar builds languages, so that for a component they are found
by following its definition. No condition ever compares two words of the grammar with each other.

## The exception

A component whose bytes must denote a value is not of this kind: a shorter stretch of its bytes may
denote one. It is right in front of a component that those bytes cannot begin
(`IsLongest.denoting_andThen`), which is how an IPv6 address stands between its brackets.
-/

namespace AccessPoint

open Ascii Uri.Grammar

namespace Uri.Grammar

variable {m : UInt8} {k : Char} {c d : List UInt8 → Prop} {p : UInt8 → Bool}

/-! ### How words begin, go on and end -/

/-- Where a word of `c` goes on to a longer one, no word of `d` begins. -/
def Separated (c d : List UInt8 → Prop) : Prop :=
  ∀ ⦃t u v : List UInt8⦄ ⦃b : UInt8⦄, c t → c (t ++ b :: u) → ¬d (b :: v)

/-- No word holds the byte `m`. -/
def Avoids (m : UInt8) (c : List UInt8 → Prop) : Prop := ∀ ⦃t⦄, c t → m ∉ t

/-- Words that are not empty begin with the byte `m`. -/
def Opens (m : UInt8) (c : List UInt8 → Prop) : Prop := ∀ ⦃b t⦄, c (b :: t) → b = m

/-- Words end with the byte `m` and hold it nowhere else. -/
def Closes (m : UInt8) (c : List UInt8 → Prop) : Prop := ∀ ⦃t⦄, c t → ∃ u, t = u ++ [m] ∧ m ∉ u

/-- A part that avoids the byte which opens the next one cannot go on over it. -/
theorem Separated.of_avoids (hc : Avoids m c) (hd : Opens m d) : Separated c d := by
  intro t u v b _ htu hv
  obtain rfl := hd hv
  exact hc htu (by simp)

/-- A word that ends with a byte which it holds nowhere else does not go on. -/
theorem Separated.of_closes (hc : Closes m c) : Separated c d := by
  intro t u v b ht htu _
  obtain ⟨x, rfl, -⟩ := hc ht
  obtain ⟨y, hy, hmy⟩ := hc htu
  -- the end of the shorter word is within the longer one, in front of its own end
  refine hmy ?_
  have hlast := congrArg List.dropLast hy
  rw [List.dropLast_concat, List.append_assoc,
    List.dropLast_append_of_ne_nil (by simp)] at hlast
  rw [← hlast]
  simp

/-- A part that may be absent avoids what it avoids when present. -/
theorem Avoids.absent (hc : Avoids m c) : Avoids m (Absent c) := by
  intro t h
  rcases h with rfl | ht
  · exact List.not_mem_nil
  · exact hc ht

/-- A sequence avoids what both parts avoid. -/
theorem Avoids.seq (hc : Avoids m c) (hd : Avoids m d) : Avoids m (Seq c d) := by
  intro w h hm
  obtain ⟨t, u, rfl, ht, hu⟩ := h
  exact (List.mem_append.1 hm).elim (hc ht) (hd hu)

/-- Behind a mark other than the byte. -/
theorem Avoids.marked (hk : m ≠ byte k) (hc : Avoids m c) : Avoids m (Marked k c) := by
  intro w h hm
  obtain ⟨t, rfl, ht⟩ := h
  exact (List.mem_cons.1 hm).elim hk (hc ht)

/-- A choice avoids what both alternatives avoid. -/
theorem Avoids.or (hc : Avoids m c) (hd : Avoids m d) : Avoids m fun s ↦ c s ∨ d s := by
  intro t h
  rcases h with ht | ht
  · exact hc ht
  · exact hd ht

theorem Avoids.mono (hd : Avoids m d) (h : ∀ t, c t → d t) : Avoids m c := fun _ ht ↦ hd (h _ ht)

theorem avoids_singleton (h : m ≠ byte k) : Avoids m fun s ↦ s = [byte k] := by
  rintro _ rfl
  simpa using h

theorem avoids_all (h : p m = false) : Avoids m (All p) := by
  intro t ht hm
  simp [ht m hm] at h

/-- The bytes that runs of a class are written with, escapes included. -/
def isRunByte (p : UInt8 → Bool) (b : UInt8) : Bool := p b || b == byte '%' || isHex b

/-- A run is written with these bytes only. -/
theorem isRunByte_of_isRun {t : List UInt8} (ht : IsRun p t) : ∀ b ∈ t, isRunByte p b := by
  induction ht with
  | nil => exact nofun
  | byte hb _ ih => exact List.forall_mem_cons.2 ⟨by simp [isRunByte, hb], ih⟩
  | escape hh hl _ ih =>
    exact List.forall_mem_cons.2 ⟨by simp [isRunByte], List.forall_mem_cons.2
      ⟨by simp [isRunByte, hh], List.forall_mem_cons.2 ⟨by simp [isRunByte, hl], ih⟩⟩⟩

/-- A run avoids a byte that is neither in the class nor the percent sign nor a hexadecimal digit.
-/
theorem avoids_isRun (h : isRunByte p m = false) : Avoids m (IsRun p) :=
  (avoids_all h).mono fun _ ↦ isRunByte_of_isRun

theorem opens_singleton : Opens (byte k) fun s ↦ s = [byte k] := fun _ _ h ↦ (List.cons.inj h).1

theorem opens_marked : Opens (byte k) (Marked k c) := by
  intro b t hw
  obtain ⟨u, h, -⟩ := hw
  exact (List.cons.inj h).1

/-- What may be absent begins as it does when present. -/
theorem Opens.absent (hc : Opens m c) : Opens m (Absent c) := by
  intro b t hw
  rcases hw with h | h
  · cases h
  · exact hc h

/-- A sequence begins with the mark of its first part. -/
theorem opens_marked_seq : Opens (byte k) (Seq (Marked k c) d) := by
  intro b t hw
  obtain ⟨_, u, h, ⟨v, rfl, -⟩, -⟩ := hw
  exact (List.cons.inj h).1

theorem closes_singleton : Closes (byte k) fun s ↦ s = [byte k] := by
  rintro _ rfl
  exact ⟨[], rfl, List.not_mem_nil⟩

/-- A sequence ends as its second part does, if the first part avoids the closing byte. -/
theorem Closes.seq (hc : Avoids m c) (hd : Closes m d) : Closes m (Seq c d) := by
  intro w h
  obtain ⟨t, u, rfl, ht, hu⟩ := h
  obtain ⟨x, rfl, hx⟩ := hd hu
  refine ⟨t ++ x, (List.append_assoc _ _ _).symm, fun hm ↦ ?_⟩
  exact (List.mem_append.1 hm).elim (hc ht) hx

/-- A mark in front other than the closing byte changes nothing at the end. -/
theorem Closes.marked (hk : m ≠ byte k) (hc : Closes m c) : Closes m (Marked k c) := by
  intro w h
  obtain ⟨t, rfl, ht⟩ := h
  obtain ⟨x, rfl, hx⟩ := hc ht
  exact ⟨byte k :: x, rfl, List.not_mem_cons_of_ne_of_not_mem hk hx⟩

end Uri.Grammar

namespace Recogniser

variable {c d : List UInt8 → Prop} {p q : Recogniser} {s t u : List UInt8} {n : Nat}

/-- The answer of `p` at `s` is right about `c`: the longest prefix of `s` in `c`, or a failure if
no prefix is in `c`. -/
structure IsLongest (c : List UInt8 → Prop) (p : Recogniser) (s : List UInt8) : Prop where
  le_length : ∀ {n}, p s = .ok n → n ≤ s.length
  mem : ∀ {n}, p s = .ok n → c (s.take n)
  length_le : ∀ {n}, p s = .ok n → ∀ {t}, c t → t <+: s → t.length ≤ n
  none_of_error : ∀ {f}, p s = .error f → ∀ {t}, c t → ¬t <+: s

namespace IsLongest

/-- A prefix in the language is matched, or a longer one. -/
theorem exists_ok (h : IsLongest c p s) (ht : c t) (hts : t <+: s) :
    ∃ n, p s = .ok n ∧ t.length ≤ n := by
  cases hp : p s with
  | ok n => exact ⟨n, rfl, h.length_le hp ht hts⟩
  | error f => exact absurd hts (h.none_of_error hp ht)

/-- Rightness is about the words of the language, however these are described. -/
theorem congr (h : IsLongest c p s) (hcd : ∀ t, c t ↔ d t) : IsLongest d p s where
  le_length := h.le_length
  mem hn := (hcd _).1 (h.mem hn)
  length_le hn _ ht := h.length_le hn ((hcd _).2 ht)
  none_of_error hf _ ht := h.none_of_error hf ((hcd _).2 ht)

/-- Rightness at `s` is about the answer at `s`, whoever gives it. -/
theorem of_eq (h : IsLongest c p s) (hq : q s = p s) : IsLongest c q s where
  le_length hn := h.le_length (hq ▸ hn)
  mem hn := h.mem (hq ▸ hn)
  length_le hn := h.length_le (hq ▸ hn)
  none_of_error hf := h.none_of_error (hq ▸ hf)

/-- All of `s` is matched exactly when `s` is in the language. -/
theorem matchesAll_iff_mem (h : IsLongest c p s) : p.matchesAll s ↔ c s := by
  rw [matchesAll_iff]
  constructor
  · intro hn
    simpa using h.mem hn
  · intro hs
    obtain ⟨n, hn, hle⟩ := h.exists_ok hs (List.prefix_refl s)
    rw [hn, Nat.le_antisymm (h.le_length hn) hle]

/-! ### Sequences -/

/-- Where a word of the second part follows, the first part is cut as the recogniser cuts it. -/
theorem length_eq_of_separated (hp : IsLongest c p s) (hcd : Separated c d) (hn : p s = .ok n)
    {b : UInt8} (ht : c t) (hu : d (b :: u)) (h : t ++ b :: u <+: s) : t.length = n := by
  obtain ⟨r, rfl⟩ := h
  have hle : t.length ≤ n := hp.length_le hn ht ⟨b :: u ++ r, by simp⟩
  refine Nat.le_antisymm hle (Nat.le_of_not_lt fun hlt ↦ ?_)
  obtain ⟨i, rfl⟩ := Nat.exists_eq_add_of_lt hlt
  -- a longer match would be a word of the first part that goes on where the second begins
  have htake : (t ++ b :: u ++ r).take (t.length + i + 1) = t ++ b :: (u ++ r).take i := by
    rw [List.append_assoc, Nat.add_assoc, List.take_length_add_append]
    rfl
  exact hcd ht (htake ▸ hp.mem hn) hu

/-- A sequence is right when the first part is sound and never cuts a word off: for each word of
the sequence it answers the length of the first part, or more if nothing follows that. -/
theorem andThen_of_cut (hle : ∀ {n}, p s = .ok n → n ≤ s.length)
    (hmem : ∀ {n}, p s = .ok n → c (s.take n))
    (hcut : ∀ {t u}, c t → d u → t ++ u <+: s →
      ∃ n, p s = .ok n ∧ t.length ≤ n ∧ (u = [] ∨ t.length = n))
    (hq : ∀ {n}, p s = .ok n → IsLongest d q (s.drop n)) : IsLongest (Seq c d) (p.andThen q) s where
  le_length := by
    intro m hm
    obtain ⟨n, k, hn, hk, rfl⟩ := andThen_eq_ok_iff.1 hm
    have := (hq hn).le_length hk
    have := hle hn
    rw [List.length_drop] at *
    omega
  mem := by
    intro m hm
    obtain ⟨n, k, hn, hk, rfl⟩ := andThen_eq_ok_iff.1 hm
    exact ⟨s.take n, (s.drop n).take k, List.take_add, hmem hn, (hq hn).mem hk⟩
  length_le := by
    intro m hm w h hs
    obtain ⟨t, u, rfl, ht, hu⟩ := h
    obtain ⟨n, k, hn, hk, rfl⟩ := andThen_eq_ok_iff.1 hm
    obtain ⟨n', hn', hlen, hend⟩ := hcut ht hu hs
    obtain rfl : n = n' := Except.ok.inj (hn.symm.trans hn')
    rw [List.length_append]
    rcases hend with rfl | rfl
    · rw [List.length_nil]
      omega
    · obtain ⟨r, rfl⟩ := hs
      have := (hq hn).length_le hk hu ⟨r, by simp⟩
      omega
  none_of_error := by
    intro f hf w h hs
    obtain ⟨t, u, rfl, ht, hu⟩ := h
    obtain ⟨n', hn', -, hend⟩ := hcut ht hu hs
    rcases andThen_eq_error_iff.1 hf with hpf | ⟨n, g, hn, hqg, -⟩
    · rw [hn'] at hpf
      cases hpf
    · obtain rfl : n = n' := Except.ok.inj (hn.symm.trans hn')
      rcases hend with rfl | rfl
      · exact (hq hn).none_of_error hqg hu List.nil_prefix
      · obtain ⟨r, rfl⟩ := hs
        exact (hq hn).none_of_error hqg hu ⟨r, by simp⟩

/-- **A sequence of separated parts is right.** The first part stops where a second one could begin,
so that greed costs nothing. -/
theorem andThen (hp : IsLongest c p s) (hcd : Separated c d)
    (hq : ∀ {n}, p s = .ok n → IsLongest d q (s.drop n)) : IsLongest (Seq c d) (p.andThen q) s := by
  refine andThen_of_cut hp.le_length hp.mem (fun {t u} ht hu hs ↦ ?_) hq
  obtain ⟨n, hn, hle⟩ := hp.exists_ok ht ((List.prefix_append t u).trans hs)
  refine ⟨n, hn, hle, ?_⟩
  cases u with
  | nil => exact .inl rfl
  | cons b u => exact .inr (hp.length_eq_of_separated hcd hn ht hu hs)

/-- What may be absent is right if it is right when present: a failure then means that nothing of
the language stands there, and the empty match is the longest. -/
theorem optional (hp : IsLongest c p s) : IsLongest (Absent c) p.optional s where
  le_length := by
    intro n hn
    rcases optional_eq_ok_iff.1 hn with h | ⟨-, rfl⟩
    · exact hp.le_length h
    · exact Nat.zero_le _
  mem := by
    intro n hn
    rcases optional_eq_ok_iff.1 hn with h | ⟨-, rfl⟩
    · exact .inr (hp.mem h)
    · exact .inl rfl
  length_le := by
    intro n hn t h hts
    rcases h with rfl | ht
    · exact Nat.zero_le _
    · rcases optional_eq_ok_iff.1 hn with h | ⟨⟨g, h⟩, -⟩
      · exact hp.length_le h ht hts
      · exact absurd hts (hp.none_of_error h ht)
  none_of_error hf := absurd hf optional_ne_error

/-! ### Alternatives -/

/-- **A choice is right** if the second alternative is right wherever the first fails, and never
longer than the first where it does not. The first alternative is taken without a look at the
second. -/
theorem orElse (hp : IsLongest c p s) (hq : ∀ {f}, p s = .error f → IsLongest d q s)
    (h : ∀ {n}, p s = .ok n → ∀ {t}, d t → t <+: s → t.length ≤ n) :
    IsLongest (fun t ↦ c t ∨ d t) (p.orElse q) s where
  le_length := by
    intro n hn
    rcases orElse_eq_ok_iff.1 hn with hpn | ⟨⟨g, hpg⟩, hqn⟩
    · exact hp.le_length hpn
    · exact (hq hpg).le_length hqn
  mem := by
    intro n hn
    rcases orElse_eq_ok_iff.1 hn with hpn | ⟨⟨g, hpg⟩, hqn⟩
    · exact .inl (hp.mem hpn)
    · exact .inr ((hq hpg).mem hqn)
  length_le := by
    intro n hn t ht hts
    rcases orElse_eq_ok_iff.1 hn with hpn | ⟨⟨g, hpg⟩, hqn⟩
    · exact ht.elim (fun ht ↦ hp.length_le hpn ht hts) fun ht ↦ h hpn ht hts
    · rcases ht with ht | ht
      · exact absurd hts (hp.none_of_error hpg ht)
      · exact (hq hpg).length_le hqn ht hts
  none_of_error := by
    intro f hf t ht hts
    obtain ⟨⟨g, hpg⟩, hqf⟩ := orElse_eq_error_iff.1 hf
    exact ht.elim (fun ht ↦ hp.none_of_error hpg ht hts) fun ht ↦ (hq hpg).none_of_error hqf ht hts

/-- Where the barred text does not stand, it is no prefix of what is matched either. -/
theorem barring (hp : IsLongest c p s) (h : ¬t <+: s) :
    IsLongest (fun u ↦ c u ∧ ¬t <+: u) (p.barring t) s := by
  have hp' : IsLongest c (p.barring t) s := hp.of_eq (by simp [Recogniser.barring, h])
  constructor
  · exact hp'.le_length
  · intro n hn
    exact ⟨hp'.mem hn, fun htn ↦ h (htn.trans (List.take_prefix n s))⟩
  · intro n hn u hu
    exact hp'.length_le hn hu.1
  · intro f hf u hu
    exact hp'.none_of_error hf hu.1

end IsLongest

/-! ### Single components -/

/-- A fixed text is the only word of its language. -/
theorem isLongest_literal : IsLongest (fun s ↦ s = t) (literal t) s where
  le_length h := by
    obtain ⟨hts, rfl⟩ := literal_eq_ok_iff.1 h
    exact hts.length_le
  mem h := by
    obtain ⟨hts, rfl⟩ := literal_eq_ok_iff.1 h
    exact (List.prefix_iff_eq_take.1 hts).symm
  length_le h _ hu _ := by
    obtain ⟨-, rfl⟩ := literal_eq_ok_iff.1 h
    exact hu ▸ Nat.le_refl _
  none_of_error h _ hu := hu ▸ (literal_eq_error_iff.1 h).1

/-- A single byte of a class. -/
theorem isLongest_single {p : UInt8 → Bool} :
    IsLongest (fun t ↦ ∃ b, t = [b] ∧ p b) (single p) s where
  le_length h := by
    obtain ⟨⟨b, hb, -⟩, rfl⟩ := single_eq_ok_iff.1 h
    obtain ⟨r, rfl⟩ := List.head?_eq_some_iff.1 hb
    simp
  mem h := by
    obtain ⟨⟨b, hb, hpb⟩, rfl⟩ := single_eq_ok_iff.1 h
    obtain ⟨r, rfl⟩ := List.head?_eq_some_iff.1 hb
    exact ⟨b, rfl, hpb⟩
  length_le h _ ht _ := by
    obtain ⟨-, rfl⟩ := single_eq_ok_iff.1 h
    obtain ⟨b, rfl, -⟩ := ht
    exact Nat.le_refl 1
  none_of_error h _ ht hts := by
    obtain ⟨b, rfl, hpb⟩ := ht
    obtain ⟨r, rfl⟩ := hts
    simp [single, hpb] at h

/-- A word of bytes of one class is no longer than the stretch of them at the head of `s`. -/
theorem length_le_takeWhile {p : UInt8 → Bool} (ht : All p t) (hts : t <+: s) :
    t.length ≤ (s.takeWhile p).length := by
  obtain ⟨r, rfl⟩ := hts
  rw [List.takeWhile_append_of_pos ht]
  simp

/-- As many bytes of a class as there are, possibly none. -/
theorem isLongest_many {p : UInt8 → Bool} : IsLongest (All p) (many p) s where
  le_length h := by
    obtain rfl := Except.ok.inj h
    exact (List.takeWhile_prefix p).length_le
  mem h := by
    obtain rfl := Except.ok.inj h
    rw [← List.prefix_iff_eq_take.1 (List.takeWhile_prefix p)]
    exact fun b hb ↦ List.mem_takeWhile_imp hb
  length_le h _ ht hts := by
    obtain rfl := Except.ok.inj h
    exact length_le_takeWhile ht hts
  none_of_error h := by cases h

/-- As many bytes of a class as there are, one at least. -/
theorem isLongest_many1 {p : UInt8 → Bool} :
    IsLongest (fun t ↦ t ≠ [] ∧ All p t) (many1 p) s where
  le_length h := by
    obtain ⟨-, rfl⟩ := many1_eq_ok_iff.1 h
    exact (List.takeWhile_prefix p).length_le
  mem h := by
    obtain ⟨hne, rfl⟩ := many1_eq_ok_iff.1 h
    rw [← List.prefix_iff_eq_take.1 (List.takeWhile_prefix p)]
    exact ⟨hne, fun b hb ↦ List.mem_takeWhile_imp hb⟩
  length_le h _ ht hts := by
    obtain ⟨-, rfl⟩ := many1_eq_ok_iff.1 h
    exact length_le_takeWhile ht.2 hts
  none_of_error h _ ht hts := by
    have := length_le_takeWhile ht.2 hts
    rw [(many1_eq_error_iff.1 h).1] at this
    exact ht.1 (List.length_eq_zero_iff.1 (Nat.le_zero.1 this))

namespace IsLongest

/-- Bytes of a class that must denote a value, in front of a component that begins with a byte
outside the class: the stretch of them is the only one that can be followed by the component. -/
theorem denoting_andThen {p : UInt8 → Bool} {value : List UInt8 → Bool}
    (hvalue : ∀ t, value t → t ≠ [] ∧ All p t) (hnil : ¬d []) (hd : ∀ b u, d (b :: u) → p b = false)
    (hq : ∀ {n}, (many1 p).denoting value s = .ok n → IsLongest d q (s.drop n)) :
    IsLongest (Seq (fun t ↦ value t) d) (((many1 p).denoting value).andThen q) s := by
  refine andThen_of_cut (fun hn ↦ isLongest_many1.le_length (denoting_eq_ok_iff.1 hn).1)
    (fun hn ↦ (denoting_eq_ok_iff.1 hn).2) (fun {t u} ht hu hs ↦ ?_) hq
  obtain ⟨r, rfl⟩ := hs
  obtain ⟨hne, hall⟩ := hvalue t ht
  obtain ⟨b, u, rfl⟩ := List.exists_cons_of_ne_nil fun e ↦ hnil (e ▸ hu)
  -- the bytes of the class stop where the second part begins
  have htake : (t ++ b :: u ++ r).takeWhile p = t := by
    rw [List.append_assoc, List.takeWhile_append_of_pos hall, List.cons_append,
      List.takeWhile_cons_of_neg (by simp [hd b u hu]), List.append_nil]
  refine ⟨t.length, denoting_eq_ok_iff.2 ⟨many1_eq_ok_iff.2 ?_, ?_⟩, Nat.le_refl _, .inr rfl⟩
  · rw [htake]
    exact ⟨hne, rfl⟩
  · simpa using ht

end IsLongest

end Recogniser

end AccessPoint

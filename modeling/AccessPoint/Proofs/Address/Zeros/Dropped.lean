import AccessPoint.Proofs.Address.Zeros.Canonical

/-!
# What is dropped

Dropping the padding of a text takes out zeros and nothing else (`drops_trimZeros`), so that a text
that changes gets shorter. The scan reports a change when it has copied something, which it does for
a literal that is not canonical only, and such a literal loses a zero (`Scan.ShorterIfCopied.step`):
a change is reported exactly if there is one (`rewritten_iff_trimZeros_ne`), and a second scan
reports none.

`Drops` is a sublist of which only one kind of member may be missing. It is an inductive predicate,
and not a statement about sublists and counts, because it is proved along the text: it is closed
under what the text without padding is made of, single bytes that stay (`Drops.keep`), pieces after
each other (`Drops.append`) and zeros in front of a group (`Drops.replicate_append`). A list that
loses something and stays as long as it was has lost nothing, which gives the length
(`Drops.length_lt`).

From bytes to characters it goes back by the same recursion (`Drops.exists_of_utf8`). It does so
because the zero is an ASCII character: a byte that is dropped is all of a character, and the bytes
of other characters stay together.

What the scan reports is whether `copied` has moved, which says nothing about the text as such. The
link is a second invariant of the scan beside its account of the text: once something is copied,
what is built is shorter than the source it stands for. A scan that has copied something cannot end
with the text it began with.
-/

namespace AccessPoint

namespace Zeros

/-- The second list is the first without some of its members `z`. -/
inductive Drops {α : Type} (z : α) : List α → List α → Prop
  | nil : Drops z [] []
  | keep (a : α) {s t : List α} : Drops z s t → Drops z (a :: s) (a :: t)
  | drop {s t : List α} : Drops z s t → Drops z (z :: s) t

namespace Drops

variable {α : Type} {z : α} {s t u v : List α}

theorem refl (z : α) (s : List α) : Drops z s s := by
  induction s with
  | nil => exact .nil
  | cons a s ih => exact .keep a ih

theorem append (h : Drops z s t) (h' : Drops z u v) : Drops z (s ++ u) (t ++ v) := by
  induction h with
  | nil => exact h'
  | keep a _ ih => exact .keep a ih
  | drop _ ih => exact .drop ih

theorem replicate_append (k : Nat) (h : Drops z s t) : Drops z (List.replicate k z ++ s) t := by
  induction k with
  | zero => exact h
  | succ k ih => exact .drop ih

theorem sublist (h : Drops z s t) : t.Sublist s := by
  induction h with
  | nil => exact .slnil
  | keep a _ ih => exact ih.cons_cons a
  | drop _ ih => exact ih.cons z

/-- A list that has lost something is shorter. -/
theorem length_lt (h : Drops z s t) (hne : t ≠ s) : t.length < s.length :=
  Nat.lt_of_le_of_ne h.sublist.length_le fun hlen ↦ hne (h.sublist.eq_of_length hlen)

/-- What does not hold `z` stays in front. -/
theorem exists_of_not_mem (hz : z ∉ u) (h : Drops z (u ++ s) t) :
    ∃ t', t = u ++ t' ∧ Drops z s t' := by
  induction u generalizing t with
  | nil => exact ⟨t, rfl, h⟩
  | cons a u ih =>
    obtain ⟨hne, hz⟩ := not_or.1 (List.mem_cons.not.1 hz)
    cases h with
    | keep _ h =>
      obtain ⟨t', rfl, ht'⟩ := ih hz h
      exact ⟨t', rfl, ht'⟩
    | drop _ => exact absurd rfl hne

end Drops

open Ascii Ipv4

namespace Plain

variable {ip : Ipv4} {s : List UInt8}

/-- A group loses its leading zeros. -/
theorem drops_unpadded (g : List UInt8) : Drops (byte '0') g (unpadded g) := by
  obtain ⟨k, hk⟩ := exists_zeros_append_unpadded g
  conv => arg 2; rw [hk]
  exact .replicate_append k (.refl _ _)

/-- A literal loses the leading zeros of its groups; any other stretch loses nothing. -/
theorem drops_trimStretch (s : List UInt8) : Drops (byte '0') s (trimStretch s) := by
  cases h : literal? s with
  | none =>
    rw [trimStretch_of_eq_none h]
    exact .refl _ _
  | some ip =>
    obtain ⟨a, b, c, d, rfl, ha, hb, hc, hd⟩ := literal?_eq_some_iff.1 h
    rw [trimStretch_dotted ha hb hc hd]
    exact (drops_unpadded a).append (.keep _ ((drops_unpadded b).append (.keep _
      ((drops_unpadded c).append (.keep _ (drops_unpadded d))))))

/-- The bytes without padding are the bytes without some of their zeros. -/
theorem drops_withoutPadding (s : List UInt8) : Drops (byte '0') s (withoutPadding s) := by
  induction s using induction_stretches isQuadByte with
  | nil => exact .nil
  | other b s hb ih =>
    rw [withoutPadding_cons hb]
    exact .keep b ih
  | stretch r s _ hr hs ih =>
    rw [withoutPadding_append_of_quadBytes hr hs]
    exact (drops_trimStretch r).append ih

end Plain

/-- A zero among the bytes of a character is the character zero. -/
theorem eq_zero_of_mem_utf8EncodeChar {c : Char} (h : byte '0' ∈ String.utf8EncodeChar c) :
    c = '0' := by
  have hlt : c.toNat < 0x80 := by
    by_contra hge
    exact absurd (Text.le_of_mem_utf8EncodeChar (Nat.le_of_not_lt hge) h) (by decide)
  rw [Text.utf8EncodeChar_of_lt hlt, List.mem_singleton] at h
  have hbyte := Text.toNat_byte_of_lt hlt
  rw [← h] at hbyte
  exact Char.toNat_inj.1 hbyte.symm

/-- Zeros taken out of the bytes of a text are zeros taken out of the text. -/
theorem Drops.exists_of_utf8 {cs : List Char} {bytes : List UInt8}
    (h : Drops (byte '0') (cs.flatMap String.utf8EncodeChar) bytes) :
    ∃ ds : List Char, ds.flatMap String.utf8EncodeChar = bytes ∧ Drops '0' cs ds := by
  induction cs generalizing bytes with
  | nil =>
    cases h
    exact ⟨[], rfl, .nil⟩
  | cons c cs ih =>
    rw [List.flatMap_cons] at h
    by_cases hc : c = '0'
    · subst hc
      rw [show String.utf8EncodeChar '0' = [byte '0'] by decide] at h
      cases h with
      | keep _ h =>
        obtain ⟨ds, rfl, hds⟩ := ih h
        exact ⟨'0' :: ds, rfl, .keep '0' hds⟩
      | drop h =>
        obtain ⟨ds, rfl, hds⟩ := ih h
        exact ⟨ds, rfl, .drop hds⟩
    · -- the bytes of any other character stay together
      obtain ⟨bytes, rfl, hrest⟩ := h.exists_of_not_mem fun hmem ↦
        hc (eq_zero_of_mem_utf8EncodeChar hmem)
      obtain ⟨ds, rfl, hds⟩ := ih hrest
      exact ⟨c :: ds, rfl, .keep c hds⟩

/-! ### What the scan reports -/

namespace Scan

open Plain

variable {source : List UInt8} {σ : Scan} {n : Nat}

/-- A literal that stands and is not canonical is longer than its canonical text. -/
theorem length_text_lt {before : Option UInt8} {rest : List UInt8} {ip : Ipv4}
    (h : standing? before rest = some (ip, n)) (hne : rest.take n ≠ Text.utf8 ip.text) :
    (Text.utf8 ip.text).length < n := by
  obtain ⟨-, r, s, rfl, rfl, hquad, -⟩ := standing?_eq_some_iff.1 h
  rw [List.take_left] at hne
  have htrim := trimStretch_of_literal? (literal?_eq_some_iff.2 hquad)
  rw [← htrim] at hne ⊢
  exact (drops_trimStretch r).length_lt hne.symm

/-- Once something is copied, the text built is shorter than the source it stands for. -/
def ShorterIfCopied (σ : Scan) : Prop := σ.copied ≠ 0 → σ.built.size < σ.copied

/-- A step copies something only when it replaces a literal that is not canonical. -/
theorem ShorterIfCopied.step (hσ : Accounts source σ) (h : ShorterIfCopied σ) :
    ShorterIfCopied σ.step := by
  rw [Scan.step]
  split
  · exact h
  split
  · exact h
  next ip n hstands =>
  dsimp only
  split
  · exact h
  next hne =>
  intro _
  have hlt := length_text_lt hstands hne
  have hle := hσ.copied_le
  -- what was built before is no longer than the source it stands for
  have hbuilt : σ.built.size ≤ σ.copied := by
    rcases Nat.eq_zero_or_pos σ.copied with h0 | hpos
    · have hnil := hσ.built
      rw [h0, List.take_zero, withoutPadding_nil] at hnil
      rw [← Array.length_toList, hnil]
      exact Nat.zero_le _
    · exact Nat.le_of_lt (h hpos.ne')
  have htake : (σ.uncopied.take (σ.pos - σ.copied)).length ≤ σ.pos - σ.copied :=
    List.length_take_le _ _
  show (σ.built ++ σ.uncopied.take (σ.pos - σ.copied) ++ Text.utf8 ip.text).size < σ.pos + n
  rw [← Array.length_toList]
  simp only [Array.toList_appendList, List.length_append, Array.length_toList]
  omega

theorem ShorterIfCopied.steps (hσ : Accounts source σ) (h : ShorterIfCopied σ) (n : Nat) :
    ShorterIfCopied (Scan.steps n σ) := by
  induction n generalizing σ with
  | zero => exact h
  | succ n ih => exact ih hσ.step (h.step hσ)

/-- If the scan has copied something, the text has changed. -/
theorem result_run_ne (h : (run source).copied ≠ 0) : (run source).result ≠ source := by
  intro heq
  have hσ := accounts_run source
  have hshort : ShorterIfCopied (run source) :=
    ShorterIfCopied.steps (accounts_start source) (fun h0 ↦ absurd rfl h0) source.length
  have hlt := hshort h
  have hlen := congrArg List.length heq
  rw [result, List.length_append, Array.length_toList, hσ.uncopied, List.length_drop] at hlen
  have := hσ.copied_le
  have := hσ.pos_le
  omega

end Scan

/-- The bytes of a text change exactly if the text does. -/
theorem withoutPadding_utf8_eq_iff (s : String) :
    Plain.withoutPadding (Text.utf8 s) = Text.utf8 s ↔ trimZeros s = s := by
  rw [← utf8_trimZeros]
  exact ⟨fun h ↦ Text.utf8_injective h, fun h ↦ congrArg Text.utf8 h⟩

/-- A change is reported exactly if there is one. -/
theorem rewritten_iff_trimZeros_ne (s : String) :
    (trimmed s).rewritten = true ↔ trimZeros s ≠ s := by
  have hreport : (trimmed s).rewritten = true ↔ (Scan.run (Text.utf8 s)).copied ≠ 0 := by
    rw [trimmed]
    split
    · next h => simp [h]
    · next h => simp [h]
  rw [hreport]
  constructor
  · intro h heq
    refine Scan.result_run_ne h ?_
    rw [Scan.result_run, withoutPadding_utf8_eq_iff, heq]
  · intro hne h
    refine hne ?_
    rw [trimZeros, trimmed, if_pos h]

end Zeros

open Zeros

/-- The text without padding is the text without some of its zeros. -/
theorem drops_trimZeros (s : String) : Drops '0' s.toList (trimZeros s).toList := by
  have hbytes := Plain.drops_withoutPadding (Text.utf8 s)
  rw [← utf8_trimZeros] at hbytes
  obtain ⟨ds, hds, hdrops⟩ := Drops.exists_of_utf8 hbytes
  rw [← Text.utf8_ofList] at hds
  rwa [← Text.utf8_injective hds, String.toList_ofList]

/-- **Dropping padding is idempotent and reports its changes.** The text loses some of its zeros and
nothing else. A change is reported exactly if there is one, and then the text has become shorter.
Dropping the padding again gives the same text, and reports no change. -/
theorem trimmed_drops_zeros_and_reports (s : String) :
    Drops '0' s.toList (trimmed s).text.toList ∧
      ((trimmed s).rewritten = true ↔ (trimmed s).text ≠ s) ∧
      ((trimmed s).rewritten = true → (trimmed s).text.length < s.length) ∧
      trimmed (trimmed s).text = ⟨(trimmed s).text, false⟩ := by
  have hdrops : Drops '0' s.toList (trimmed s).text.toList := drops_trimZeros s
  have hrewritten : (trimmed s).rewritten = true ↔ (trimmed s).text ≠ s :=
    rewritten_iff_trimZeros_ne s
  refine ⟨hdrops, hrewritten, fun h ↦ ?_, ?_⟩
  · rw [← String.length_toList, ← String.length_toList]
    exact hdrops.length_lt fun heq ↦ hrewritten.1 h (String.toList_inj.1 heq)
  · have htext : (trimmed (trimmed s).text).text = (trimmed s).text := trimZeros_trimZeros s
    have hagain : (trimmed (trimmed s).text).rewritten = false := by
      rw [← Bool.not_eq_true, rewritten_iff_trimZeros_ne, not_not]
      exact htext
    rcases hanswer : trimmed (trimmed s).text with ⟨text, rewritten⟩
    rw [hanswer] at htext hagain
    exact congrArg₂ Trimmed.mk htext hagain

end AccessPoint

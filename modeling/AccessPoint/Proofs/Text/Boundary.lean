import AccessPoint.Proofs.Text.Utf8

/-!
# Places between characters

The matchers of addresses and references count bytes, and a text may be cut only between its
characters. A place in the bytes of a text is a boundary if it cuts no character: what stands in
front of it and what stands behind it are the bytes of texts (`IsBoundary`). This is what slicing a
text at the place asks for, and it says nothing of how UTF-8 marks its bytes, so that the proofs
need no more of the encoding than Mathlib and the core library know.

Bytes outside ASCII stand only in longer characters. So a place is a boundary

* when an ASCII byte stands behind it (`isBoundary_of_mem_head?_drop`), and
* when none but ASCII bytes stand in front of it (`isBoundary_of_forall_mem_take`).

Both are inductions over the characters of the text (`induction_chars`), with `IsBoundary.cons` for
the step: behind the first character, the boundaries are those of the rest.

Boundaries compose: one of what stands behind a boundary is one of the whole (`IsBoundary.add`), and
what stands between two boundaries is a text as well (`IsBoundary.exists_between`). The last rests
on the one fact about UTF-8 that is not about ASCII, that what is left of a text behind a text is a
text (`exists_utf8_of_append`).
-/

namespace AccessPoint.Text

variable {s : List UInt8} {n m : Nat} {b : UInt8} {c : Char} {t : String}

/-- No character is cut at the place `n`: the bytes on both sides of it are texts. -/
structure IsBoundary (s : List UInt8) (n : Nat) : Prop where
  le_length : n ≤ s.length
  before : ∃ t, utf8 t = s.take n
  after : ∃ t, utf8 t = s.drop n

theorem isBoundary_zero (t : String) : IsBoundary (utf8 t) 0 :=
  ⟨Nat.zero_le _, ⟨"", rfl⟩, ⟨t, rfl⟩⟩

theorem isBoundary_length (t : String) : IsBoundary (utf8 t) (utf8 t).length where
  le_length := Nat.le_refl _
  before := ⟨t, List.take_length.symm⟩
  after := ⟨"", List.drop_length.symm⟩

/-- A boundary of what stands behind a boundary is one of the whole. -/
theorem IsBoundary.add (hn : IsBoundary s n) (hm : IsBoundary (s.drop n) m) :
    IsBoundary s (n + m) where
  le_length := by
    have hle := hm.le_length
    have := hn.le_length
    rw [List.length_drop] at hle
    omega
  before := by
    obtain ⟨t, ht⟩ := hn.before
    obtain ⟨u, hu⟩ := hm.before
    exact ⟨t ++ u, by rw [utf8_append, ht, hu, List.take_add]⟩
  after := by
    obtain ⟨u, hu⟩ := hm.after
    exact ⟨u, by rw [hu, List.drop_drop]⟩

/-- Bytes can be decoded exactly when they are those of a text. -/
theorem isSome_ofUtf8?_iff : (ofUtf8? s).isSome ↔ ∃ t, utf8 t = s := by
  rw [Option.isSome_iff_exists]
  exact exists_congr fun t ↦ ⟨utf8_of_ofUtf8?, fun h ↦ h ▸ ofUtf8?_utf8 t⟩

/-- Boundaries are found by decoding both sides. -/
instance (s : List UInt8) (n : Nat) : Decidable (IsBoundary s n) :=
  decidable_of_iff
    (n ≤ s.length ∧ (ofUtf8? (s.take n)).isSome = true ∧ (ofUtf8? (s.drop n)).isSome = true) <| by
    rw [isSome_ofUtf8?_iff, isSome_ofUtf8?_iff]
    exact ⟨fun h ↦ ⟨h.1, h.2.1, h.2.2⟩, fun h ↦ ⟨h.le_length, h.before, h.after⟩⟩

/-! ### Text between boundaries -/

theorem utf8Encode_toList (t : String) : t.toList.utf8Encode = ⟨(utf8 t).toArray⟩ := by
  rw [toByteArray_utf8, String.utf8Encode_toList]

/-- What is left of a text behind a text is a text. -/
theorem exists_utf8_of_append {t u : String} {v : List UInt8} (h : utf8 u ++ v = utf8 t) :
    ∃ w, utf8 w = v := by
  have hencode : u.toList.utf8Encode ++ ⟨v.toArray⟩ = t.toList.utf8Encode := by
    rw [utf8Encode_toList, utf8Encode_toList, ← h]
    ext1
    simp
  obtain ⟨cs, hcs⟩ := List.isPrefix_of_utf8Encode_append_eq_utf8Encode _ hencode
  have happend : utf8 u ++ utf8 (String.ofList cs) = utf8 u ++ v := by
    rw [h, utf8_ofList, utf8, utf8, ← List.flatMap_append, hcs]
  exact ⟨String.ofList cs, List.append_cancel_left happend⟩

/-- The bytes between two boundaries are a text. -/
theorem IsBoundary.exists_between (hn : IsBoundary s n) (hm : IsBoundary s m) (hle : n ≤ m) :
    ∃ t, utf8 t = (s.drop n).take (m - n) := by
  obtain ⟨u, hu⟩ := hn.before
  obtain ⟨t, ht⟩ := hm.before
  refine exists_utf8_of_append (u := u) (t := t) ?_
  rw [hu, ht, ← List.take_add, Nat.add_sub_cancel' hle]

/-! ### Texts character by character -/

theorem utf8_singleton (c : Char) : utf8 (String.ofList [c]) = String.utf8EncodeChar c := by
  rw [utf8_ofList, List.flatMap_singleton]

theorem utf8_cons (c : Char) (t : String) :
    utf8 (String.ofList [c] ++ t) = String.utf8EncodeChar c ++ utf8 t := by
  rw [utf8_append, utf8_singleton]

/-- What holds of the empty text, and of a text with one more character in front, holds of every
text. -/
theorem induction_chars {motive : String → Prop} (empty : motive "")
    (cons : ∀ c t, motive t → motive (String.ofList [c] ++ t)) (t : String) : motive t := by
  rw [← String.ofList_toList (s := t)]
  induction t.toList with
  | nil => exact empty
  | cons c cs ih =>
    have happend : String.ofList ([c] ++ cs) = String.ofList [c] ++ String.ofList cs :=
      String.ofList_append
    exact happend ▸ cons c _ ih

/-- The first character ends at a boundary, behind which the boundaries are those of the rest. -/
theorem IsBoundary.cons (h : IsBoundary (utf8 t) m) (c : Char) :
    IsBoundary (utf8 (String.ofList [c] ++ t)) ((String.utf8EncodeChar c).length + m) := by
  rw [utf8_cons]
  have hfirst : IsBoundary (String.utf8EncodeChar c ++ utf8 t) (String.utf8EncodeChar c).length :=
    ⟨(List.prefix_append _ _).length_le, ⟨_, (utf8_singleton c).trans List.take_left.symm⟩,
      ⟨t, List.drop_left.symm⟩⟩
  exact hfirst.add (by rwa [List.drop_left])

/-- A character has an ASCII byte only at its head. -/
theorem le_of_mem_drop_utf8EncodeChar (hn : 0 < n)
    (hb : b ∈ (String.utf8EncodeChar c).drop n) : 0x80 ≤ b := by
  rcases Nat.lt_or_ge c.toNat 0x80 with hc | hc
  · rw [utf8EncodeChar_of_lt hc, List.drop_of_length_le hn] at hb
    cases hb
  · exact le_of_mem_utf8EncodeChar hc (List.mem_of_mem_drop hb)

/-! ### Boundaries beside ASCII bytes -/

/-- A place with an ASCII byte behind it is a boundary. -/
theorem isBoundary_of_mem_head?_drop (hb : b ∈ ((utf8 t).drop n).head?) (hlt : b < 0x80) :
    IsBoundary (utf8 t) n := by
  induction t using induction_chars generalizing n with
  | empty =>
    rw [show utf8 "" = [] from rfl, List.drop_nil] at hb
    cases hb
  | cons c t ih =>
    rcases Nat.eq_zero_or_pos n with rfl | hn
    · exact isBoundary_zero _
    rw [utf8_cons, List.drop_append] at hb
    rcases Nat.lt_or_ge n (String.utf8EncodeChar c).length with hc | hc
    · -- the byte would stand inside the first character
      have hne : (String.utf8EncodeChar c).drop n ≠ [] :=
        mt List.drop_eq_nil_iff.1 (Nat.not_le.2 hc)
      obtain ⟨a, as, has⟩ := List.exists_cons_of_ne_nil hne
      rw [has] at hb
      obtain rfl : a = b := Option.some.inj hb
      have hmem : a ∈ (String.utf8EncodeChar c).drop n := has ▸ List.mem_cons_self
      exact absurd (le_of_mem_drop_utf8EncodeChar hn hmem) (UInt8.not_le.2 hlt)
    · rw [List.drop_of_length_le hc, List.nil_append] at hb
      obtain ⟨m, rfl⟩ := Nat.exists_eq_add_of_le hc
      rw [Nat.add_sub_cancel_left] at hb
      exact (ih hb).cons c

/-- A place with only ASCII bytes in front of it is a boundary. -/
theorem isBoundary_of_forall_mem_take (hn : n ≤ (utf8 t).length)
    (h : ∀ b ∈ (utf8 t).take n, b < 0x80) : IsBoundary (utf8 t) n := by
  induction t using induction_chars generalizing n with
  | empty =>
    obtain rfl : n = 0 := Nat.le_zero.1 hn
    exact isBoundary_zero _
  | cons c t ih =>
    rcases n with - | n
    · exact isBoundary_zero _
    rw [utf8_cons] at hn h
    -- the first character is in ASCII, as its first byte is
    have hc : c.toNat < 0x80 := by
      refine Nat.lt_of_not_le fun hge ↦ ?_
      obtain ⟨b, bs, hbs⟩ := List.exists_cons_of_ne_nil (String.utf8EncodeChar_ne_nil (c := c))
      have hle := le_of_mem_utf8EncodeChar hge (b := b) (by simp [hbs])
      exact absurd hle (UInt8.not_le.2 (h b (by simp [hbs])))
    rw [utf8EncodeChar_of_lt hc] at hn h
    have hrest := (ih (Nat.le_of_succ_le_succ hn) fun b hb ↦ h b (List.mem_cons_of_mem _ hb)).cons c
    rwa [utf8EncodeChar_of_lt hc, List.length_singleton, Nat.add_comm] at hrest

end AccessPoint.Text

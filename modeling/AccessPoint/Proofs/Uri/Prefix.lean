import AccessPoint.Proofs.Uri.Language

/-!
# The matched prefix of any bytes

The recogniser of URI references matches a prefix of any bytes at all (`exists_reference_eq_ok`),
since both parts of a relative URI may be absent. The prefix is the longest one that is a reference,
but for bare slashes: two slashes with nothing behind them, alone or after a scheme and its colon,
are refused as a whole text and matched within a longer one. Where neither the bytes nor the prefix
are of that kind, the prefix is the longest reference, and nowhere else
(`longest_reference_iff_not_bare`).

The exception has two sides, and both are needed.

* *The bytes are bare.* The recogniser of a net path refuses them because nothing follows, and what
  is matched instead is shorter than a prefix that would have been a reference: one slash less is a
  path (`exists_longer_of_bare`). So the match is not the longest.
* *The prefix is bare.* Within the longer bytes the slashes are followed by something and are
  matched, but what is matched would be refused as a text of its own. So the match is no reference.

For all other bytes the statement is `isLongest_reference`, and what remains is to say what matching
all of a text means: it is in the grammar and not bare (`matchesAll_reference_iff`).
-/

namespace AccessPoint.Uri

open Ascii Recogniser Grammar

variable {s t : List UInt8} {n : Nat} {f : Failure}

/-! ### No bytes fail to match -/

/-- Both parts of a relative URI may be absent, so it matches at least nothing. -/
theorem relativeUri_ne_error : relativeUri s ≠ .error f := by
  intro h
  rcases andThen_eq_error_iff.1 h with h | ⟨n, g, -, h, -⟩
  · exact optional_ne_error h
  · exact optional_ne_error h

/-- A reference falls back on a relative URI, which never fails. -/
theorem reference_ne_error : reference s ≠ .error f := by
  intro h
  rcases andThen_eq_error_iff.1 h with h | ⟨n, g, -, h, -⟩
  · exact relativeUri_ne_error (orElse_eq_error_iff.1 h).2
  · exact optional_ne_error h

theorem exists_reference_eq_ok (s : List UInt8) : ∃ n, reference s = .ok n := by
  cases h : reference s with
  | ok n => exact ⟨n, rfl⟩
  | error f => exact absurd h reference_ne_error

/-- What is matched is a prefix of the bytes; bare slashes need a look of their own, as nothing is
claimed of them by `isLongest_reference`. -/
theorem length_le_of_reference (h : reference s = .ok n) : n ≤ s.length := by
  by_cases hs : Bare s
  · rcases hs with rfl | ⟨a, _, rfl, ha, _, rfl, rfl⟩
    · obtain rfl := Except.ok.inj ((by decide : reference slashes = .ok 0).symm.trans h)
      exact Nat.zero_le _
    · exact Nat.le_trans (length_le_of_reference_bare ha h) (List.prefix_append _ _).length_le
  · exact (isLongest_reference hs).le_length h

/-! ### Bare slashes -/

/-- A scheme, its colon and a single slash make a reference. -/
theorem matchesAll_scheme_slash (ha : Scheme t) :
    reference.matchesAll (t ++ [byte ':', byte '/']) := by
  rw [matchesAll_reference_iff]
  constructor
  · have habs : AbsPath [byte '/'] := ⟨[], rfl, .nil⟩
    have hhier : HierPart [byte '/'] := ⟨_, [], rfl, .inr ⟨habs, by decide⟩, .inl rfl⟩
    exact ⟨_, [], (List.append_nil _).symm, .inl ⟨t, _, rfl, ha, _, rfl, .inl hhier⟩, .inl rfl⟩
  · intro hbare
    rcases hbare with h | ⟨u, _, h, -, _, rfl, rfl⟩
    · -- the colon is no slash
      have hmem : byte ':' ∈ slashes := h ▸ by simp
      exact absurd hmem (by decide)
    · -- the byte in front of the last is a colon here and a slash there
      have hlast := congrArg (fun l ↦ l.dropLast.getLast?) h
      have heq : byte ':' = byte '/' := by simpa [slashes] using hlast
      exact absurd heq (by decide)

/-- Bare slashes begin with a reference longer than what is matched of them. -/
theorem exists_longer_of_bare (hs : Bare s) (hn : reference s = .ok n) :
    ∃ t, t <+: s ∧ n < t.length ∧ reference.matchesAll t := by
  rcases hs with rfl | ⟨a, _, rfl, ha, _, rfl, rfl⟩
  · obtain rfl := Except.ok.inj ((by decide : reference slashes = .ok 0).symm.trans hn)
    exact ⟨[byte '/'], by decide, by decide, by decide⟩
  · refine ⟨a ++ [byte ':', byte '/'], ⟨[byte '/'], by simp [slashes]⟩, ?_,
      matchesAll_scheme_slash ha⟩
    have hle := length_le_of_reference_bare ha hn
    rw [List.length_append]
    exact Nat.lt_of_le_of_lt hle (Nat.lt_add_of_pos_right (by decide))

/-- **The matched prefix is the longest reference.** Of any bytes a prefix is matched. It is matched
in full by itself, and no longer prefix is, exactly if neither the bytes nor the prefix are two
slashes on their own or a scheme with nothing but two slashes behind it. -/
theorem longest_reference_iff_not_bare (s : List UInt8) :
    ∃ n, reference s = .ok n ∧ n ≤ s.length ∧
      ((reference.matchesAll (s.take n) ∧
          ∀ t, t <+: s → n < t.length → ¬reference.matchesAll t) ↔
        ¬Bare s ∧ ¬Bare (s.take n)) := by
  obtain ⟨n, hn⟩ := exists_reference_eq_ok s
  refine ⟨n, hn, length_le_of_reference hn, ?_, ?_⟩
  · intro h
    obtain ⟨hfull, hlongest⟩ := h
    refine ⟨fun hs ↦ ?_, fun hp ↦ not_matchesAll_of_bare hp hfull⟩
    obtain ⟨t, hts, hlt, ht⟩ := exists_longer_of_bare hs hn
    exact hlongest t hts hlt ht
  · intro h
    obtain ⟨hs, hp⟩ := h
    have hlong := isLongest_reference hs
    refine ⟨matchesAll_reference_iff.2 ⟨hlong.mem hn, hp⟩, fun t hts hlt ht ↦ ?_⟩
    have hle := hlong.length_le hn (matchesAll_reference_iff.1 ht).1 hts
    omega

end AccessPoint.Uri

import AccessPoint.Proofs.Uri.Components

/-!
# The language of URI references

The recogniser of URI references, which commits to the first alternative that matches, accepts
exactly what the grammar derives, two slashes on their own and a scheme with nothing but two slashes
behind it apart (`isReference_iff_derivable`).

The alternatives exclude each other early. A hierarchical part begins with a slash and an opaque
part does not. And once a scheme and its colon are matched, no relative URI reaches beyond the
scheme (`length_le_of_relativeUri`), because a first segment holds no colon; so trying the absolute
form first never hides a longer relative one.

## What the two bare cases rest on

A network path is refused where two slashes are all that is left. The grammar derives them with an
empty authority (`netPath_slashes`), so the recogniser and the grammar do differ there, and every
`isLongest_*` above a network path is stated for other bytes. That the difference is seen in whole
references as well, and only in `Bare` ones, needs both directions.

* For bytes that are not bare the recogniser is right (`isLongest_reference`): a network path is
  tried at the head, or behind a scheme and its colon, and nowhere else.
* Bare bytes are not matched in full (`not_matchesAll_of_bare`), although the recogniser goes on to
  try the relative form when the absolute one fails. That form stops at the scheme, and a fragment
  cannot make up for the rest.

The characters that are refused in a text, spaces and controls outside ASCII, are a condition beside
the grammar, since the grammar is one of bytes.
-/

namespace AccessPoint.Uri

open Ascii Recogniser Grammar

variable {s t u : List UInt8} {n : Nat} {m : UInt8}

/-! ### Hierarchical and opaque parts -/

theorem isLongest_query : IsLongest Grammar.Query query s :=
  isLongest_marked fun _ _ ↦ isLongest_run (by decide)

theorem isLongest_fragment : IsLongest Fragment fragment s :=
  isLongest_marked fun _ _ ↦ isLongest_run (by decide)

/-- A hierarchical path has no question mark, so a query is cut where it begins. -/
theorem isLongest_hierPart (hs : s ≠ slashes) : IsLongest HierPart hierPart s :=
  (isLongest_hierPath hs).andThen (.of_avoids (avoids_hierPath (.inl rfl)) opens_marked.absent)
    fun _ ↦ isLongest_query.optional

/-- An opaque part is barred where a slash stands, and the grammar bars it there too. -/
theorem isLongest_opaquePart : IsLongest OpaquePart opaquePart s := by
  by_cases hs : [byte '/'] <+: s
  · -- nothing is matched here, and no opaque part begins here
    have hno : ∀ {t}, OpaquePart t → ¬t <+: s := by
      intro t h hts
      obtain ⟨hne, hhead, -⟩ := h
      obtain ⟨b, t, rfl⟩ := List.exists_cons_of_ne_nil hne
      exact hhead (congrArg some (head_eq_of_isPrefix hts hs))
    have herr : ∀ {n}, opaquePart s ≠ .ok n := fun hn ↦ (barring_eq_ok_iff.1 hn).1 hs
    exact ⟨fun hn ↦ absurd hn herr, fun hn ↦ absurd hn herr, fun hn ↦ absurd hn herr,
      fun _ _ ht ↦ hno ht⟩
  · refine ((isLongest_run1 (by decide)).barring hs).congr fun t ↦ ?_
    cases t with
    | nil => simp [OpaquePart]
    | cons b t => simp [OpaquePart, eq_comm (a := b), and_comm]

/-- A hierarchical part begins with a slash, an opaque part with another byte. -/
theorem isLongest_hierPart_or_opaquePart (hs : s ≠ slashes) :
    IsLongest (fun t ↦ HierPart t ∨ OpaquePart t) (hierPart.orElse opaquePart) s := by
  refine (isLongest_hierPart hs).orElse (fun _ ↦ isLongest_opaquePart) fun {n} hn t ht hts ↦ ?_
  obtain ⟨u, v, huv, hu, -⟩ := (isLongest_hierPart hs).mem hn
  obtain ⟨u, rfl⟩ := slash_of_hierPath hu
  obtain ⟨hne, hhead, -⟩ := ht
  obtain ⟨b, t, rfl⟩ := List.exists_cons_of_ne_nil hne
  have hslash : byte '/' :: u ++ v <+: s := huv ▸ List.take_prefix n s
  exact absurd (congrArg some (head_eq_of_isPrefix hts hslash)) hhead

/-! ### Absolute and relative URIs -/

/-- The letter of a scheme is one of its bytes like the others. -/
theorem isScheme_of_scheme (h : Scheme t) : All isScheme t := by
  obtain ⟨b, t, rfl, hb, ht⟩ := h
  refine List.forall_mem_cons.2 ⟨?_, ht⟩
  simp [isScheme, isAlphanum, hb]

/-- A scheme avoids what its class does not have, the colon above all. -/
theorem avoids_scheme (hm : isScheme m = false) : Avoids m Scheme :=
  (avoids_all hm).mono fun _ ↦ isScheme_of_scheme

/-- A scheme is cut at its colon. Behind the colon two slashes alone would be bare. -/
theorem isLongest_absoluteUri (hs : ¬Bare s) : IsLongest AbsoluteUri absoluteUri s := by
  refine isLongest_scheme.andThen (.of_avoids (avoids_scheme (by decide)) opens_marked)
    fun {n} hn ↦ ?_
  refine isLongest_marked fun t ht ↦ isLongest_hierPart_or_opaquePart fun htl ↦ hs (.inr ?_)
  exact ⟨s.take n, s.drop n, (List.take_append_drop n s).symm, isLongest_scheme.mem hn, t, ht, htl⟩

/-- A first segment never begins with a slash, so the two kinds of path exclude each other. -/
theorem isLongest_path (hs : s ≠ slashes) :
    IsLongest (fun t ↦ HierPath t ∨ RelPath t) (hierPath.orElse relPath) s := by
  refine (isLongest_hierPath hs).orElse (fun _ ↦ isLongest_relPath) fun {n} hn t ht hts ↦ ?_
  -- a hierarchical path begins with a slash, and no first segment does
  obtain ⟨u, hu⟩ := slash_of_hierPath ((isLongest_hierPath hs).mem hn)
  obtain ⟨seg, v, rfl, ⟨hne, hseg⟩, -⟩ := ht
  obtain ⟨b, seg, rfl⟩ := List.exists_cons_of_ne_nil hne
  have hslash : byte '/' :: u <+: s := hu ▸ List.take_prefix n s
  obtain rfl := head_eq_of_isPrefix hts hslash
  exact absurd (isRun_head hseg) (by decide)

/-- Both parts may be absent; the path has no question mark. -/
theorem isLongest_relativeUri (hs : s ≠ slashes) : IsLongest RelativeUri relativeUri s :=
  (isLongest_path hs).optional.andThen
    (.of_avoids ((avoids_hierPath (.inl rfl)).or (avoids_relPath (.inl rfl))).absent
      opens_marked.absent)
    fun _ ↦ isLongest_query.optional

/-- What follows the first segment of a relative path begins with a slash or a question mark. -/
theorem opens_absPath_query {abs query : List UInt8} {b : UInt8} (habs : Absent AbsPath abs)
    (hquery : Absent Grammar.Query query) (h : abs ++ query = b :: u) :
    b = byte '/' ∨ b = byte '?' := by
  rcases habs with rfl | ⟨abs, rfl, -⟩
  · rcases hquery with rfl | ⟨query, rfl, -⟩
    · cases h
    · exact .inr (List.cons.inj h).1.symm
  · exact .inl (List.cons.inj h).1.symm

/-- Where a scheme and a colon stand, no relative URI reaches beyond the scheme. -/
theorem length_le_of_relativeUri (hs : Scheme s) (ht : RelativeUri t)
    (hts : t <+: s ++ byte ':' :: u) : t.length ≤ s.length := by
  have hhead : ∀ {b v}, b :: v <+: s ++ byte ':' :: u → isAlpha b := by
    intro b v hv
    obtain ⟨a, s, rfl, ha, -⟩ := hs
    obtain rfl := head_eq_of_isPrefix hv (List.prefix_append _ _)
    exact ha
  obtain ⟨path, query, rfl, rfl | hpath | ⟨seg, abs, rfl, ⟨-, hseg⟩, habs⟩, hquery⟩ := ht
  · rcases hquery with rfl | ⟨query, rfl, -⟩
    · exact Nat.zero_le _
    · exact absurd (hhead hts) (by decide)
  · obtain ⟨path, rfl⟩ := slash_of_hierPath hpath
    exact absurd (hhead hts) (by decide)
  rw [List.append_assoc] at hts ⊢
  -- the first segment ends before the colon
  have hle : seg.length < s.length + 1 := by
    refine length_lt_of_avoids (m := byte ':') (avoids_isRun (p := isRelSegment) (by decide)) ?_
      hseg ((List.prefix_append _ _).trans hts)
    rw [List.take_length_add_append]
    simp
  -- what follows it begins with no byte of the scheme and not with the colon
  cases hrest : abs ++ query with
  | nil =>
    rw [List.append_nil]
    exact Nat.le_of_lt_succ hle
  | cons b r =>
    have hseg_b : seg ++ [b] <+: s ++ byte ':' :: u := by
      refine List.IsPrefix.trans ⟨r, ?_⟩ hts
      rw [hrest, List.append_assoc, List.singleton_append]
    have hpre : seg ++ [b] <+: s ++ [byte ':'] :=
      List.prefix_of_prefix_length_le hseg_b ⟨u, by simp⟩ (by simpa using Nat.le_of_lt_succ hle)
    have hmem : b ∈ s ++ [byte ':'] := hpre.subset (by simp)
    have hno : ∀ m, isScheme m = false → m ≠ byte ':' → m ∉ s ++ [byte ':'] := by
      intro m hm hc hms
      rcases List.mem_append.1 hms with hms | hms
      · exact avoids_scheme hm hs hms
      · exact hc (List.mem_singleton.1 hms)
    rcases opens_absPath_query habs hquery hrest with rfl | rfl
    · exact absurd hmem (hno _ (by decide) (by decide))
    · exact absurd hmem (hno _ (by decide) (by decide))

/-! ### References -/

/-- **Absolute before relative.** A scheme and its colon at the head keep the relative form short.
-/
theorem isLongest_uri (hs : ¬Bare s) :
    IsLongest (fun t ↦ AbsoluteUri t ∨ RelativeUri t) (absoluteUri.orElse relativeUri) s := by
  refine (isLongest_absoluteUri hs).orElse (fun _ ↦ isLongest_relativeUri fun h ↦ hs (.inl h))
    fun {n} hn t ht hts ↦ ?_
  obtain ⟨a, _, ha, hscheme, v, rfl, -⟩ := (isLongest_absoluteUri hs).mem hn
  -- what the absolute form matched shows a scheme and a colon at the head
  have hpre : a ++ byte ':' :: (v ++ s.drop n) = s := by
    rw [← List.cons_append, ← List.append_assoc, ← ha, List.take_append_drop]
  have hle := length_le_of_relativeUri hscheme ht (hpre.symm ▸ hts)
  have := congrArg List.length ha
  simp only [List.length_take, List.length_append, List.length_cons] at this
  omega

/-- An absolute URI has no number sign. -/
theorem avoids_number_absoluteUri : Avoids (byte '#') AbsoluteUri := by
  have hquery : Avoids (byte '#') (Absent Grammar.Query) :=
    (Avoids.marked (by decide) (avoids_isRun (by decide))).absent
  have hopaque : Avoids (byte '#') OpaquePart :=
    Avoids.mono (d := IsRun isUric) (avoids_isRun (by decide))
      fun _ h ↦ h.2.2
  exact (avoids_scheme (by decide)).seq
    (.marked (by decide) (((avoids_hierPath (.inr rfl)).seq hquery).or hopaque))

theorem avoids_number_relativeUri : Avoids (byte '#') RelativeUri :=
  ((avoids_hierPath (.inr rfl)).or (avoids_relPath (.inr rfl))).absent.seq
    (Avoids.marked (by decide) (avoids_isRun (by decide))).absent

/-- **What is matched is the longest reference**, bare bytes apart. Neither form of a URI has a
number sign, so the fragment is cut where it begins. -/
theorem isLongest_reference (hs : ¬Bare s) : IsLongest Reference reference s :=
  (isLongest_uri hs).andThen
    (.of_avoids (avoids_number_absoluteUri.or avoids_number_relativeUri) opens_marked.absent)
    fun _ ↦ isLongest_fragment.optional

/-- Two slashes behind a scheme, and nothing else, make no absolute URI. -/
theorem absoluteUri_bare_ne_ok (hs : Scheme s) :
    absoluteUri (s ++ byte ':' :: slashes) ≠ .ok n := by
  intro h
  obtain ⟨i, k, hi, hk, -⟩ := andThen_eq_ok_iff.1 h
  obtain ⟨j, hj, hle⟩ := isLongest_scheme.exists_ok hs (List.prefix_append s (byte ':' :: slashes))
  obtain rfl : i = j := Except.ok.inj (hi.symm.trans hj)
  have hlt := length_lt_of_avoids (m := byte ':') (n := s.length + 1) (avoids_scheme (by decide))
    (by rw [List.take_length_add_append]; simp) (isLongest_scheme.mem hi) (List.take_prefix i _)
  have hlen := isLongest_scheme.le_length hi
  rw [List.length_take, Nat.min_eq_left hlen] at hlt
  obtain rfl : i = s.length := by omega
  rw [List.drop_left] at hk
  have herr : ((mark ':').andThen (hierPart.orElse opaquePart)) (byte ':' :: slashes) =
    .error ⟨.excluded, 1⟩ := by rfl
  rw [herr] at hk
  cases hk

/-- What is matched in front of two slashes behind a scheme ends with the scheme. -/
theorem length_le_of_reference_bare (ha : Scheme t)
    (h : reference (t ++ byte ':' :: slashes) = .ok n) : n ≤ t.length := by
  obtain ⟨i, k, hi, hk, rfl⟩ := andThen_eq_ok_iff.1 h
  have hrel : relativeUri (t ++ byte ':' :: slashes) = .ok i := by
    rcases orElse_eq_ok_iff.1 hi with habs | ⟨-, hrel⟩
    · exact absurd habs (absoluteUri_bare_ne_ok ha)
    · exact hrel
  have hlong : IsLongest RelativeUri relativeUri (t ++ byte ':' :: slashes) := by
    refine isLongest_relativeUri fun hsl ↦ ?_
    have := congrArg List.length hsl
    simp [slashes] at this
  have hle := length_le_of_relativeUri ha (hlong.mem hrel) (List.take_prefix i _)
  rw [List.length_take, Nat.min_eq_left (hlong.le_length hrel)] at hle
  have hnum : byte '#' ∉ t ++ byte ':' :: slashes := by
    rw [List.mem_append]
    exact not_or.2 ⟨avoids_scheme (by decide) ha, by decide⟩
  have hfrag := isLongest_fragment.optional (s := (t ++ byte ':' :: slashes).drop i)
  rcases hfrag.mem hk with h0 | ⟨v, hv, -⟩
  · have hk0 := congrArg List.length h0
    rw [List.length_take, Nat.min_eq_left (hfrag.le_length hk), List.length_nil] at hk0
    omega
  · refine absurd ((List.drop_subset i _) ((List.take_subset k _) ?_)) hnum
    rw [hv]
    exact List.mem_cons_self

/-- Two slashes on their own are left over: what is matched before them ends with the scheme. -/
theorem not_matchesAll_of_bare (hs : Bare s) : ¬reference.matchesAll s := by
  rcases hs with rfl | ⟨a, _, rfl, ha, _, rfl, rfl⟩
  · decide
  intro h
  have hle := length_le_of_reference_bare ha (matchesAll_iff.1 h)
  rw [List.length_append, List.length_cons] at hle
  omega

/-- All of the bytes are matched exactly when the grammar derives them and they are more than bare
slashes. -/
theorem matchesAll_reference_iff : reference.matchesAll s ↔ Reference s ∧ ¬Bare s := by
  by_cases hs : Bare s
  · exact ⟨fun h ↦ absurd h (not_matchesAll_of_bare hs), fun h ↦ absurd hs h.2⟩
  · exact (isLongest_reference hs).matchesAll_iff_mem.trans (and_iff_left hs).symm

/-- **The language of URI references.** A text is accepted exactly when it holds no character
outside ASCII that is a space or a control, the grammar derives its bytes, and it is neither two
slashes on their own nor a scheme with nothing but two slashes behind it. -/
theorem isReference_iff_derivable (s : String) :
    isReference s ↔
      (∀ c ∈ s.toList, ¬(0x80 ≤ c.toNat ∧ (Text.isSpace c ∨ Text.isControl c))) ∧
        Reference (Text.utf8 s) ∧ ¬Bare (Text.utf8 s) := by
  rw [isReference, Bool.and_eq_true, matchesAll_reference_iff]
  refine and_congr_left fun _ ↦ ?_
  simp only [Bool.not_eq_true', List.any_eq_false, isExcluded, Bool.and_eq_true, decide_eq_true_eq,
    Bool.or_eq_true]

end AccessPoint.Uri

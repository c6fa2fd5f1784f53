import AccessPoint.Proofs.Address.Zeros.Scan
import AccessPoint.Proofs.Selection
import AccessPoint.Proofs.Uri.Escapes
import AccessPoint.Proofs.Uri.Language

/-!
# References without padding

Dropping the padding of the literals in a URI reference leaves a URI reference with the same escapes
exactly when no padded literal cuts an escape (`reference_kept_iff_no_escape_cut`).

Outside escapes, digits and dots stand together in every class of the grammar that has one of them,
so it does not matter how many there are (`Kept`). The fixed parts of the grammar, which are neither
digits nor dots, are where a reference may be cut (`Kept.seq`). The one component in which digits
are counted is an IPv6 address, and its dotted part has no padding to begin with
(`withoutPadding_of_isText`).

## The shape of the invariant

`Kept c` is said of a language, with the condition on escapes at each of its words. Whether a
literal is cut off at the end of a component is not seen from the component alone, so a sequence is
only cut where the next part begins with a byte that is neither digit nor dot (`BeginsClear`): there
a stretch of digits and dots ends on both sides, and the padding of the whole is that of the parts.
Every component that follows another one in the grammar begins so.

Runs are the one case with work in it (`kept_isRun`). The induction is on the text cut into
stretches of digits and dots and single other bytes. A stretch changes, and goes on being bytes of
the class; a percent sign stays, and the two digits behind it stay because no literal cuts them.

## Back from the shortened text

That nothing is *gained* by dropping zeros is needed for bare slashes only: what is left of a
reference is not bare unless the reference was (`bare_of_bare_withoutPadding`). This goes through
bytes that are neither digits nor dots, which are never added or moved
(`exists_of_withoutPadding_eq_cons`).
-/

namespace AccessPoint.Uri

open Ascii Ipv4 Zeros Zeros.Plain Grammar

variable {s t u : List UInt8} {b m : UInt8} {k : Char} {c d : List UInt8 → Prop} {p : UInt8 → Bool}

/-- Dropping the padding leaves the words of a component words of it, if it cuts no escape. -/
def Kept (c : List UInt8 → Prop) : Prop := ∀ ⦃s⦄, c s → ¬CutsEscape s → c (withoutPadding s)

/-- Words do not begin with a digit or a dot. -/
def BeginsClear (c : List UInt8 → Prop) : Prop := ∀ ⦃s⦄, c s → Clear s

/-! ### Putting components together -/

/-- A component that opens with a byte other than a digit or a dot begins clear. -/
theorem beginsClear_of_opens (hc : Opens m c) (hm : isQuadByte m = false) : BeginsClear c := by
  intro s hs x hx
  obtain ⟨t, rfl⟩ := List.head?_eq_some_iff.1 hx
  rw [hc hs]
  exact hm

/-- What may be absent is kept if it is kept when present. -/
theorem Kept.absent (hc : Kept c) : Kept (Absent c) := by
  intro s h hcut
  rcases h with rfl | hs
  · exact .inl rfl
  · exact .inr (hc hs hcut)

/-- A choice is kept, since both alternatives are: which one it was does not change. -/
theorem Kept.or (hc : Kept c) (hd : Kept d) : Kept fun s ↦ c s ∨ d s := by
  intro s h hcut
  rcases h with hs | hs
  · exact .inl (hc hs hcut)
  · exact .inr (hd hs hcut)

/-- The mark in front is neither a digit nor a dot, so the rest is shortened by itself. -/
theorem Kept.marked (hk : isQuadByte (byte k) = false) (hc : Kept c) : Kept (Marked k c) := by
  intro w h hcut
  obtain ⟨t, rfl, ht⟩ := h
  exact ⟨withoutPadding t, withoutPadding_cons hk t, hc ht fun h ↦ hcut (h.append_left [byte k])⟩

/-- A sequence may be cut in front of its second part. -/
theorem Kept.seq (hc : Kept c) (hd : Kept d) (hclear : BeginsClear d) : Kept (Seq c d) := by
  intro w h hcut
  obtain ⟨t, u, rfl, ht, hu⟩ := h
  have hu' := hclear hu
  exact ⟨withoutPadding t, withoutPadding u, withoutPadding_append (.inr hu'),
    hc ht fun h ↦ hcut (h.append_right hu'), hd hu fun h ↦ hcut (h.append_left t)⟩

theorem kept_singleton (hk : isQuadByte (byte k) = false) : Kept fun s ↦ s = [byte k] := by
  rintro _ rfl -
  exact withoutPadding_cons hk []

/-! ### Bytes of one class and runs -/

/-- Bytes of a class are kept: nothing is added that was not there. -/
theorem kept_all : Kept (All p) := fun _ hs _ b hb ↦ hs b (mem_of_mem_withoutPadding hb)

/-- Something is left of every literal, so a part that must not be empty is kept too. -/
theorem Kept.ne_nil (hc : Kept c) : Kept fun s ↦ s ≠ [] ∧ c s := by
  intro s h hcut
  obtain ⟨hne, hs⟩ := h
  exact ⟨withoutPadding_eq_nil_iff.not.2 hne, hc hs hcut⟩

/-- A byte of the class in front of a run makes no difference. -/
theorem isRun_cons_iff (hb : p b) (hne : b ≠ byte '%') : IsRun p (b :: s) ↔ IsRun p s := by
  refine ⟨fun hrun ↦ ?_, fun hrun ↦ .byte hb hrun⟩
  cases hrun with
  | byte _ hrun => exact hrun
  | escape => exact absurd rfl hne

/-- Nor do more of them. -/
theorem isRun_append_iff (h : ∀ b ∈ t, p b ∧ b ≠ byte '%') : IsRun p (t ++ s) ↔ IsRun p s := by
  induction t with
  | nil => rfl
  | cons b t ih =>
    obtain ⟨⟨hb, hne⟩, ht⟩ := List.forall_mem_cons.1 h
    rw [List.cons_append, isRun_cons_iff hb hne, ih ht]

/-- The digits of an escape are bytes of the class too, so a run goes on right behind its percent
sign. -/
theorem isRun_percent_iff (hp : p (byte '%') = false) (hhex : ∀ b, isHex b → p b) :
    IsRun p (byte '%' :: s) ↔ (escapeDigits? s).isSome ∧ IsRun p s := by
  have hdigit : ∀ {b}, isHex b → p b ∧ b ≠ byte '%' := by
    intro b hb
    refine ⟨hhex b hb, ?_⟩
    rintro rfl
    exact absurd hb (by decide)
  have hdigits : ∀ {h l : UInt8} {s}, isHex h → isHex l → (IsRun p (h :: l :: s) ↔ IsRun p s) := by
    intro h l s hh hl
    rw [isRun_cons_iff (hdigit hh).1 (hdigit hh).2, isRun_cons_iff (hdigit hl).1 (hdigit hl).2]
  constructor
  · intro hrun
    cases hrun with
    | byte hb _ => simp [hp] at hb
    | escape hh hl hrun => exact ⟨by simp [escapeDigits?, hh, hl], (hdigits hh hl).2 hrun⟩
  · intro h
    obtain ⟨hsome, hrun⟩ := h
    rcases s with _ | ⟨h, _ | ⟨l, s⟩⟩
    · cases hsome
    · cases hsome
    · by_cases hhl : isHex h ∧ isHex l
      · exact .escape hhl.1 hhl.2 ((hdigits hhl.1 hhl.2).1 hrun)
      · rw [← Bool.and_eq_true] at hhl
        simp [escapeDigits?, hhl] at hsome

theorem isUnreserved_of_isQuadByte (h : isQuadByte b) : isUnreserved b := by
  rw [isQuadByte, Bool.or_eq_true, beq_iff_eq] at h
  rcases h with h | rfl
  · simp [isUnreserved, isAlphanum, h]
  · decide

/-- So are the digits of an escape. -/
theorem isUnreserved_of_isHex (h : isHex b) : isUnreserved b := by
  have halpha : isHex b → isDigit b ∨ isAlpha b := by
    simp only [isHex, isAlpha, Bool.or_eq_true, Bool.and_eq_true, decide_eq_true_eq]
    intro hw
    rcases hw with (h | ⟨hle, hle'⟩) | ⟨hle, hle'⟩
    · exact .inl h
    · exact .inr (.inl ⟨hle, UInt8.le_trans hle' (by decide)⟩)
    · exact .inr (.inr ⟨hle, UInt8.le_trans hle' (by decide)⟩)
  rcases halpha h with h | h
  · simp [isUnreserved, isAlphanum, h]
  · simp [isUnreserved, isAlphanum, h]

/-- A run whose class has all the unreserved bytes, and so the digits and the dot. -/
theorem kept_isRun (hp : p (byte '%') = false) (hunreserved : ∀ b, isUnreserved b → p b) :
    Kept (IsRun p) := by
  have hhex : ∀ b, isHex b → p b := fun b hb ↦ hunreserved b (isUnreserved_of_isHex hb)
  have hquad : ∀ {r : List UInt8}, (∀ b ∈ r, isQuadByte b) → ∀ b ∈ r, p b ∧ b ≠ byte '%' := by
    intro r hr b hb
    refine ⟨hunreserved b (isUnreserved_of_isQuadByte (hr b hb)), ?_⟩
    rintro rfl
    exact percent_not_mem hr hb
  intro s
  induction s using induction_stretches isQuadByte with
  | nil => exact fun hs _ ↦ hs
  | other b s hb ih =>
    intro hs hcut
    rw [cutsEscape_cons_iff, not_or] at hcut
    rw [withoutPadding_cons hb]
    by_cases hpercent : b = byte '%'
    · subst hpercent
      rw [isRun_percent_iff hp hhex] at hs ⊢
      -- no literal cuts this escape, so its digits stand where they stood
      have hcuts : ¬Cuts s := fun h ↦ hcut.1 ⟨rfl, h⟩
      exact ⟨by rw [escapeDigits?_withoutPadding_eq_iff.2 hcuts]; exact hs.1, ih hs.2 hcut.2⟩
    · have hpb : p b := (isRun_head hs).resolve_right hpercent
      rw [isRun_cons_iff hpb hpercent] at hs ⊢
      exact ih hs hcut.2
  | stretch r s _ hr hs ih =>
    intro hrun hcut
    rw [isRun_append_iff (hquad hr)] at hrun
    rw [cutsEscape_append_iff (percent_not_mem hr)] at hcut
    rw [withoutPadding_append_of_quadBytes hr hs,
      isRun_append_iff fun b hb ↦ hquad hr b (mem_of_mem_trimStretch hb)]
    exact ih hrun hcut

/-! ### IPv6 addresses -/

/-- Without a dot there is no literal. -/
theorem withoutPadding_of_dot_not_mem (h : byte '.' ∉ s) : withoutPadding s = s := by
  induction s using induction_stretches isQuadByte with
  | nil => rfl
  | other b s hb ih =>
    rw [withoutPadding_cons hb, ih fun hs ↦ h (List.mem_cons_of_mem b hs)]
  | stretch r s _ hr hs ih =>
    have hnone : literal? r = none := by
      rw [literal?_eq_none_iff]
      intro ip h
      obtain ⟨a, b, c, d, rfl, -⟩ := h
      exact h (List.mem_append_left s (mem_dotted.2 (.inl rfl)))
    rw [withoutPadding_append_of_quadBytes hr hs, trimStretch_of_eq_none hnone,
      ih fun hs ↦ h (List.mem_append_right r hs)]

/-- The octets of a dotted IPv6 part are octets without a leading zero. -/
theorem isOctet_of_isPlainOctet {g : List UInt8} (h : Ipv6.isPlainOctet g) :
    IsOctet (digitsValue g).toUInt8 g ∧ unpadded g = g := by
  rw [Ipv6.isPlainOctet, Bool.and_eq_true] at h
  refine ⟨isOctet_eq_true_iff.1 h.1, unpadded_eq_self ?_⟩
  rintro x t rfl
  simp at h

/-- A dotted address in an IPv6 text is canonical. -/
theorem withoutPadding_of_isDotted (h : Ipv6.isDotted s) : withoutPadding s = s := by
  simp only [Ipv6.isDotted, Bool.and_eq_true, beq_iff_eq, List.all_eq_true] at h
  obtain ⟨hlen, hplain⟩ := h
  obtain ⟨a, b, c, d, hs⟩ := List.length_eq_four.1 hlen
  rw [hs] at hplain
  obtain ⟨ha, hua⟩ := isOctet_of_isPlainOctet (hplain a (by simp))
  obtain ⟨hb, hub⟩ := isOctet_of_isPlainOctet (hplain b (by simp))
  obtain ⟨hc, huc⟩ := isOctet_of_isPlainOctet (hplain c (by simp))
  obtain ⟨hd, hud⟩ := isOctet_of_isPlainOctet (hplain d (by simp))
  have hquad : IsQuad ⟨_, _, _, _⟩ (dotted a b c d) := ⟨a, b, c, d, rfl, ha, hb, hc, hd⟩
  rw [eq_dotted_of_splitOn hs,
    withoutPadding_of_quadBytes fun x hx ↦ isQuadByte_of_isQuad hquad hx,
    @trimStretch_dotted ⟨_, _, _, _⟩ a b c d ha hb hc hd, hua, hub, huc, hud]

/-- An IPv6 text has no padding. -/
theorem withoutPadding_of_isText (h : Ipv6.isText s) : withoutPadding s = s := by
  have hfields : ∀ field ∈ s.splitOn (byte ':'), withoutPadding field = field := by
    intro field hf
    rcases Ipv6.isField_of_isText h field hf with rfl | hg | hd
    · rfl
    · refine withoutPadding_of_dot_not_mem fun hdot ↦ ?_
      simp only [Ipv6.isGroup, Bool.and_eq_true, List.all_eq_true] at hg
      exact absurd (hg.1.1 _ hdot) (by decide)
    · exact withoutPadding_of_isDotted hd
  clear h
  induction s using Ipv6.induction_splitOn (byte ':') with
  | field a ha =>
    refine hfields a ?_
    rw [List.splitOn_eq_singleton ha]
    exact List.mem_singleton_self a
  | cons a s ha ih =>
    rw [List.splitOn_append_cons_self_of_not_mem ha, List.forall_mem_cons] at hfields
    rw [withoutPadding_append_cons (by decide), hfields.1, ih hfields.2]

/-- IPv6 texts are kept, as they are not changed. -/
theorem kept_isText : Kept fun s ↦ Ipv6.isText s := by
  intro s hs _
  rwa [withoutPadding_of_isText hs]

/-! ### Bytes that stood before -/

/-- A letter is neither a digit nor a dot. -/
theorem isQuadByte_of_isAlpha (h : isAlpha b) : isQuadByte b = false := by
  rw [isQuadByte, Bool.or_eq_false_iff, beq_eq_false_iff_ne]
  constructor
  · rw [isDigit, Bool.and_eq_false_iff, decide_eq_false_iff_not, decide_eq_false_iff_not]
    simp only [isAlpha, Bool.or_eq_true, Bool.and_eq_true, decide_eq_true_eq] at h
    refine .inr fun hle ↦ ?_
    rcases h with ⟨hle', -⟩ | ⟨hle', -⟩
    · exact absurd (UInt8.le_trans hle' hle) (by decide)
    · exact absurd (UInt8.le_trans hle' hle) (by decide)
  · rintro rfl
    exact absurd h (by decide)

/-- A byte at the head that is neither a digit nor a dot stood there before. -/
theorem exists_of_withoutPadding_eq_cons (hb : isQuadByte b = false)
    (h : withoutPadding s = b :: u) : ∃ t, s = b :: t ∧ withoutPadding t = u := by
  obtain ⟨v, t, rfl, hv, rfl⟩ := exists_of_withoutPadding_eq (t := []) hb h
  obtain rfl := withoutPadding_eq_nil_iff.1 hv
  exact ⟨t, rfl, rfl⟩

theorem exists_of_withoutPadding_eq_slashes (h : withoutPadding s = slashes ++ u) :
    ∃ t, s = slashes ++ t ∧ withoutPadding t = u := by
  obtain ⟨v, rfl, hv⟩ := exists_of_withoutPadding_eq_cons (b := byte '/') (by decide) h
  obtain ⟨t, rfl, ht⟩ := exists_of_withoutPadding_eq_cons (b := byte '/') (by decide) hv
  exact ⟨t, rfl, ht⟩

theorem eq_slashes_of_withoutPadding_eq (h : withoutPadding s = slashes) : s = slashes := by
  obtain ⟨t, rfl, ht⟩ := exists_of_withoutPadding_eq_slashes (u := []) h
  rw [withoutPadding_eq_nil_iff.1 ht, List.append_nil]

/-- A scheme had its digits and dots, and all other bytes, before. -/
theorem scheme_of_scheme_withoutPadding (h : Scheme (withoutPadding s)) : Scheme s := by
  obtain ⟨b, u, hs, hb, hu⟩ := h
  obtain ⟨t, rfl, rfl⟩ := exists_of_withoutPadding_eq_cons (isQuadByte_of_isAlpha hb) hs
  refine ⟨b, t, rfl, hb, fun x hx ↦ ?_⟩
  cases hquad : isQuadByte x with
  | false => exact hu x (mem_withoutPadding_of_mem hx hquad)
  | true =>
    rw [isQuadByte, Bool.or_eq_true, beq_iff_eq] at hquad
    rcases hquad with hdigit | rfl
    · simp [isScheme, isAlphanum, hdigit]
    · decide

/-- Bare slashes are not left where there was more. -/
theorem bare_of_bare_withoutPadding (h : Bare (withoutPadding s)) : Bare s := by
  rcases h with h | ⟨a, _, hs, ha, _, rfl, rfl⟩
  · exact .inl (eq_slashes_of_withoutPadding_eq h)
  · obtain ⟨v, w, rfl, rfl, hw⟩ := exists_of_withoutPadding_eq (by decide) hs
    refine .inr ⟨v, byte ':' :: w, rfl, scheme_of_scheme_withoutPadding ha, w, rfl, ?_⟩
    exact eq_slashes_of_withoutPadding_eq hw

/-! ### The components of a reference -/

/-- The letter of a scheme keeps its place, and digits and dots are bytes of its class. -/
theorem kept_scheme : Kept Scheme := by
  intro w h hcut
  obtain ⟨b, t, rfl, hb, ht⟩ := h
  have hquad := isQuadByte_of_isAlpha hb
  exact ⟨b, withoutPadding t, withoutPadding_cons hquad t, hb,
    kept_all ht fun h ↦ hcut (h.append_left [b])⟩

theorem kept_absPath : Kept AbsPath :=
  .marked (by decide) (kept_isRun (by decide) fun b hb ↦ by simp [isPath, hb])

theorem beginsClear_absPath : BeginsClear (Absent AbsPath) :=
  beginsClear_of_opens opens_marked.absent (by decide)

/-- A first segment has the unreserved bytes, but must not become empty. -/
theorem kept_relPath : Kept RelPath :=
  .seq (.ne_nil (kept_isRun (by decide) fun b hb ↦ by simp [isRelSegment, hb]))
    kept_absPath.absent beginsClear_absPath

/-- An address in brackets is cut in front of its zone and of its bracket. -/
theorem kept_ipv6Reference : Kept Ipv6Reference := by
  have hbracket : BeginsClear fun s ↦ s = [byte ']'] :=
    beginsClear_of_opens opens_singleton (by decide)
  have hzone : BeginsClear (Seq (Absent Zone) fun s ↦ s = [byte ']']) := by
    intro w h
    obtain ⟨t, u, rfl, rfl | ⟨v, rfl, -⟩, hu⟩ := h
    · exact hbracket hu
    · exact clear_cons (by decide)
  refine .marked (by decide) (kept_isText.seq (.seq ?_ (kept_singleton (by decide)) hbracket) hzone)
  exact (Kept.marked (by decide) kept_all.ne_nil).absent

/-- User information, bracketed address and port are cut at `@`, at the brackets and at the colon.
-/
theorem kept_authority : Kept Authority := by
  have huser : Kept UserPart :=
    .seq (kept_isRun (by decide) fun b hb ↦ by simp [isUserinfo, hb]) (kept_singleton (by decide))
      (beginsClear_of_opens opens_singleton (by decide))
  have hport : Kept PortPart := .marked (by decide) kept_all
  refine .or (.seq huser.absent (.seq kept_ipv6Reference hport.absent ?_) ?_)
    (kept_isRun (by decide) fun b hb ↦ by simp [isRegName, hb])
  · exact beginsClear_of_opens opens_marked.absent (by decide)
  · exact beginsClear_of_opens opens_marked_seq (by decide)

/-- A hierarchical path of one slash does not become one of two. -/
theorem kept_hierPath : Kept HierPath := by
  refine .or (.marked (by decide) (.marked (by decide)
    (kept_authority.seq kept_absPath.absent beginsClear_absPath))) ?_
  intro s h hcut
  obtain ⟨hs, hslashes⟩ := h
  refine ⟨kept_absPath hs hcut, ?_⟩
  -- two slashes at the head stood there before
  intro h
  obtain ⟨u, hu⟩ := h
  obtain ⟨t, rfl, -⟩ := exists_of_withoutPadding_eq_slashes hu.symm
  exact hslashes ⟨t, rfl⟩

theorem kept_query : Kept (Absent Grammar.Query) :=
  (Kept.marked (by decide) (kept_isRun (by decide) fun b hb ↦ by simp [isUric, hb])).absent

theorem beginsClear_query : BeginsClear (Absent Grammar.Query) :=
  beginsClear_of_opens opens_marked.absent (by decide)

/-- An opaque part does not become empty, and its first byte does not become a slash. -/
theorem kept_opaquePart : Kept OpaquePart := by
  intro s h hcut
  obtain ⟨hne, hhead, hrun⟩ := h
  refine ⟨withoutPadding_eq_nil_iff.not.2 hne, fun h ↦ ?_,
    kept_isRun (by decide) (fun b hb ↦ by simp [isUric, hb]) hrun hcut⟩
  obtain ⟨u, hu⟩ := List.head?_eq_some_iff.1 h
  obtain ⟨t, rfl, -⟩ := exists_of_withoutPadding_eq_cons (by decide) hu
  exact hhead rfl

/-- **References are kept** if no literal cuts one of their escapes. -/
theorem kept_reference : Kept Reference := by
  have habsolute : Kept AbsoluteUri :=
    kept_scheme.seq (.marked (by decide) ((kept_hierPath.seq kept_query beginsClear_query).or
      kept_opaquePart)) (beginsClear_of_opens opens_marked (by decide))
  have hrelative : Kept RelativeUri :=
    (kept_hierPath.or kept_relPath).absent.seq kept_query beginsClear_query
  refine (habsolute.or hrelative).seq ?_ (beginsClear_of_opens opens_marked.absent (by decide))
  exact (Kept.marked (by decide) (kept_isRun (by decide) fun b hb ↦ by simp [isUric, hb])).absent

/-! ### References -/

theorem isReference_iff (s : String) :
    isReference s ↔
      (∀ c ∈ s.toList, isExcluded c = false) ∧ Reference (Text.utf8 s) ∧ ¬Bare (Text.utf8 s) := by
  rw [isReference, Bool.and_eq_true, matchesAll_reference_iff]
  simp

/-- A reference in which no escape is cut is one without its padding too. -/
theorem isReference_trimZeros {s : String} (hs : isReference s) (hcut : ¬CutsEscape (Text.utf8 s)) :
    isReference (trimZeros s) := by
  rw [isReference_iff] at hs ⊢
  obtain ⟨hexcluded, href, hbare⟩ := hs
  obtain ⟨t, ht, hmem⟩ := exists_utf8_eq_withoutPadding s
  -- the text with these bytes is the one that the scan gives
  obtain rfl : t = trimZeros s := Text.utf8_injective (ht.trans (utf8_trimZeros s).symm)
  refine ⟨fun c hc ↦ ?_, ?_, ?_⟩
  · rcases hmem c hc with hc | hascii
    · exact hexcluded c hc
    · simp [isExcluded, Nat.not_le_of_lt hascii]
  · rw [ht]
    exact kept_reference href hcut
  · rw [ht]
    exact fun h ↦ hbare (bare_of_bare_withoutPadding h)

/-- Dropping the padding leaves a reference one with the same escapes exactly when it cuts none. -/
theorem isReference_trimZeros_and_escapes_eq_iff {s : String} (hs : isReference s) :
    isReference (trimZeros s) ∧ escapes (Text.utf8 (trimZeros s)) = escapes (Text.utf8 s) ↔
      ¬CutsEscape (Text.utf8 s) := by
  rw [utf8_trimZeros, escapes_withoutPadding_eq_iff]
  exact and_iff_right_of_imp (isReference_trimZeros hs)

/-- **References without padding.** Dropping the padding of a URI reference leaves a URI reference
with the same escapes exactly when no padded literal cuts an escape. So a record with this reference
for its MMSC that decides a selection is not rejected, and keeps the escapes, exactly then. -/
theorem reference_kept_iff_no_escape_cut (s : String) (hs : isReference s) :
    (isReference (trimZeros s) ∧ escapes (Text.utf8 (trimZeros s)) = escapes (Text.utf8 s) ↔
        ¬CutsEscape (Text.utf8 s)) ∧
      ∀ (rs : List Record) (requested id : String) (r : Record),
        rs.find? (Selection.decides requested) = some r → r.trimmed .mmsc = s →
          ((∃ settings, (resolve rs requested id).result = .ok settings ∧
              escapes (Text.utf8 settings.mmscUrl) = escapes (Text.utf8 s)) ↔
            ¬CutsEscape (Text.utf8 s)) := by
  refine ⟨isReference_trimZeros_and_escapes_eq_iff hs, fun rs requested id r hr hmmsc ↦ ?_⟩
  subst hmmsc
  rw [← isReference_trimZeros_and_escapes_eq_iff hs, Selection.resolve_result, hr, Option.map_some,
    Option.getD_some, Selection.outcome]
  constructor
  · intro h
    obtain ⟨settings, hok, hescapes⟩ := h
    split at hok
    · next href =>
      obtain rfl := Except.ok.inj hok
      exact ⟨href, hescapes⟩
    · cases hok
  · intro h
    obtain ⟨href, hescapes⟩ := h
    exact ⟨_, if_pos href, hescapes⟩

/-- A padded host and an escape that no literal cuts. -/
theorem reference_kept_padded_host :
    isReference "http://010.0.0.1/%201.2.3.4" ∧
      ¬CutsEscape (Text.utf8 "http://010.0.0.1/%201.2.3.4") :=
  ⟨by decide +kernel,
    (reference_kept_iff_no_escape_cut "http://010.0.0.1/%201.2.3.4" (by decide +kernel)).1.1
      ⟨by decide +kernel, by decide +kernel⟩⟩

/-- A padded literal behind a percent sign: what is left is no reference, and the record whose MMSC
it is does not get past it. -/
theorem reference_lost_to_cut_escape :
    isReference "http://m/%01.2.3.4" = true ∧
      isReference (trimZeros "http://m/%01.2.3.4") = false ∧
      (resolve [Record.empty.put .mmsc "http://m/%01.2.3.4"] "mms" "req").result =
        .error (.invalidMmscUrl "http://m/%1.2.3.4") := by
  decide +kernel

end AccessPoint.Uri

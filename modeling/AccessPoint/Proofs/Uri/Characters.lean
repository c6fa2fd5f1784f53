import AccessPoint.Proofs.Address.Quad
import AccessPoint.Proofs.Text.Boundary
import AccessPoint.Proofs.Uri.Components
import AccessPoint.Uri.Reference

/-!
# Recognisers keep characters whole

Recognisers go through bytes and know no characters. All the same they cut none: in the bytes of a
text a match ends between two characters, and so does what was matched before a failure
(`KeepsCharacters`). So the rest of a text behind a match is again the bytes of a text, and a caller
who holds texts may cut at any offset that a recogniser answers.

The proof has two layers that know nothing of each other.

* **Byte classes.** A class either holds none of the bytes outside ASCII (`IsAscii`), and then what
  is matched is ASCII and cannot end within a character; or it holds them all (`HoldsOther`), and
  then a run of it stops in front of an ASCII byte or at the end of the text. There is no third kind
  in the grammar, and a class of the third kind would indeed cut characters. The bytes that go on a
  character are never named.
* **Combinators.** They only put offsets together, and offsets that are boundaries add up
  (`IsBoundary.add`). `AtBoundary.bind` is the one lemma on order of steps; a component keeps
  characters whole because its parts do, and its proof has the shape of its definition.

Failures are spoken of as well as matches, since a failure tells the offset at which it was found.
For parts that are right about a language of ASCII texts both follow from `IsLongest`
(`KeepsCharacters.of_isLongest`), so that only the runs, which go over other bytes too, need an
argument of their own (`isBoundary_runLength`).

Two components do not fit the combinators. `netPath` looks at the whole text before it starts, and a
dotted quad answers numbers besides an offset; for its sake `AtBoundary` speaks of any answer in
which there is a place.
-/

namespace AccessPoint

open Ascii
open Text (IsBoundary utf8 isBoundary_zero)

variable {α β : Type} {s : List UInt8} {n : Nat}

/-- The answer lies at a boundary of `s`: a match ends at one, and a failure was found at one. -/
structure AtBoundary (s : List UInt8) (place : α → Nat) (answer : Except Failure α) : Prop where
  ok : ∀ {a}, answer = .ok a → IsBoundary s (place a)
  error : ∀ {f}, answer = .error f → IsBoundary s f.offset

/-- A step that starts at a boundary and ends at one may follow a step that ends at one. -/
theorem AtBoundary.bind {place : α → Nat} {place' : β → Nat} {x : Except Failure α}
    {g : α → Except Failure β} (hx : AtBoundary s place x)
    (hg : ∀ a, IsBoundary s (place a) → AtBoundary s place' (g a)) :
    AtBoundary s place' (x >>= g) := by
  cases x with
  | error f =>
    refine ⟨(nomatch ·), fun h ↦ ?_⟩
    obtain rfl := Except.error.inj h
    exact hx.error rfl
  | ok a => exact hg a (hx.ok rfl)

namespace Recogniser

variable {c : List UInt8 → Prop} {p q : Recogniser} {t : List UInt8} {k : UInt8 → Bool}

/-- The recogniser cuts no character of a text. -/
def KeepsCharacters (p : Recogniser) : Prop := ∀ t : String, AtBoundary (utf8 t) id (p (utf8 t))

namespace KeepsCharacters

/-! ### Combinators -/

/-- A recogniser that starts at a boundary has the bytes of a text before it. The boundaries that it
finds there are boundaries of the whole. -/
theorem after (hp : KeepsCharacters p) (hn : IsBoundary s n) : AtBoundary s id (p.after n s) := by
  obtain ⟨t, ht⟩ := hn.after
  have hrest := ht ▸ hp t
  constructor
  · intro m hm
    obtain ⟨k, hk, rfl⟩ := after_eq_ok_iff.1 hm
    exact hn.add (hrest.ok hk)
  · intro f hf
    obtain ⟨g, hg, rfl⟩ := after_eq_error_iff.1 hf
    exact hn.add (hrest.error hg)

/-- The second part starts where the first one ended. -/
theorem andThen (hp : KeepsCharacters p) (hq : KeepsCharacters q) :
    KeepsCharacters (p.andThen q) := by
  intro t
  have hbind : p.andThen q (utf8 t) = p (utf8 t) >>= fun n ↦ q.after n (utf8 t) := by
    rw [Recogniser.andThen]
    cases p (utf8 t) <;> rfl
  rw [hbind]
  exact (hp t).bind fun n hn ↦ hq.after hn

/-- Both alternatives start at the head of the text; the failure of a choice is that of the second.
-/
theorem orElse (hp : KeepsCharacters p) (hq : KeepsCharacters q) :
    KeepsCharacters (p.orElse q) := by
  intro t
  constructor
  · intro n hn
    rcases orElse_eq_ok_iff.1 hn with hn | ⟨-, hn⟩
    · exact (hp t).ok hn
    · exact (hq t).ok hn
  · intro f hf
    exact (hq t).error (orElse_eq_error_iff.1 hf).2

/-- What is absent ends at the head of the text. -/
theorem optional (hp : KeepsCharacters p) : KeepsCharacters p.optional := by
  intro t
  constructor
  · intro n hn
    rcases optional_eq_ok_iff.1 hn with hn | ⟨-, rfl⟩
    · exact (hp t).ok hn
    · exact isBoundary_zero t
  · intro f hf
    exact absurd hf optional_ne_error

/-- A barred text is refused at the head of the text, before anything is matched. -/
theorem barring (hp : KeepsCharacters p) : KeepsCharacters (p.barring t) := by
  intro t
  constructor
  · intro n hn
    exact (hp t).ok (barring_eq_ok_iff.1 hn).2
  · intro f hf
    rcases barring_eq_error_iff.1 hf with ⟨-, rfl⟩ | ⟨-, hf⟩
    · exact isBoundary_zero t
    · exact (hp t).error hf

/-- A value that is not denoted is refused at the head of the text, not at its end. -/
theorem denoting {value : List UInt8 → Bool} (hp : KeepsCharacters p) :
    KeepsCharacters (p.denoting value) := by
  intro t
  constructor
  · intro n hn
    exact (hp t).ok (denoting_eq_ok_iff.1 hn).1
  · intro f hf
    rcases denoting_eq_error_iff.1 hf with hf | ⟨n, -, -, rfl⟩
    · exact (hp t).error hf
    · exact isBoundary_zero t

/-- A recogniser of ASCII texts that fails where it starts. -/
theorem of_isLongest (hp : ∀ s, IsLongest c p s) (hc : ∀ t, c t → ∀ b ∈ t, b < 0x80)
    (hf : ∀ {s f}, p s = .error f → f.offset = 0) : KeepsCharacters p := by
  intro t
  constructor
  · intro n hn
    exact Text.isBoundary_of_forall_mem_take ((hp _).le_length hn) (hc _ ((hp _).mem hn))
  · intro f h
    rw [hf h]
    exact isBoundary_zero t

end KeepsCharacters

/-! ### Single components -/

/-- The class holds ASCII bytes only. -/
def IsAscii (k : UInt8 → Bool) : Prop := ∀ b, k b → b < 0x80

/-- A class holds ASCII bytes only if it holds none of the 128 others. -/
theorem isAscii_of_forall_lt (h : ∀ n < 0x80, k (UInt8.ofNat (0x80 + n)) = false) : IsAscii k := by
  intro b hb
  refine UInt8.not_le.1 fun hle ↦ ?_
  have hlt := b.toNat_lt
  obtain ⟨n, hn⟩ := Nat.exists_eq_add_of_le (UInt8.le_iff_toNat_le.1 hle)
  change b.toNat = 0x80 + n at hn
  have hno := h n (by omega)
  rw [← hn, UInt8.ofNat_toNat, hb] at hno
  cases hno

/-- A fixed text of ASCII bytes. -/
theorem keepsCharacters_literal (ht : ∀ b ∈ t, b < 0x80) : KeepsCharacters (literal t) :=
  .of_isLongest (fun _ ↦ isLongest_literal) (fun _ hu ↦ hu ▸ ht) fun h ↦ by
    rw [(literal_eq_error_iff.1 h).2]

/-- A single byte of an ASCII class, which fails at the head where there is none. -/
theorem keepsCharacters_single (hk : IsAscii k) : KeepsCharacters (single k) := by
  refine .of_isLongest (fun _ ↦ isLongest_single) ?_ fun h ↦ by rw [(single_eq_error_iff.1 h).2]
  intro t ht a ha
  obtain ⟨b, rfl, hb⟩ := ht
  exact List.mem_singleton.1 ha ▸ hk b hb

/-- Bytes of an ASCII class, as many as there are. -/
theorem keepsCharacters_many (hk : IsAscii k) : KeepsCharacters (many k) :=
  .of_isLongest (fun _ ↦ isLongest_many) (fun _ ht b hb ↦ hk b (ht b hb)) fun h ↦ nomatch h

/-- Bytes of an ASCII class, one at least: where there is none, the failure is at the head. -/
theorem keepsCharacters_many1 (hk : IsAscii k) : KeepsCharacters (many1 k) :=
  .of_isLongest (fun _ ↦ isLongest_many1) (fun _ ht b hb ↦ hk b (ht.2 b hb)) fun h ↦ by
    rw [(many1_eq_error_iff.1 h).2]

end Recogniser

namespace Uri

open Recogniser Recogniser.KeepsCharacters

variable {p : UInt8 → Bool}

/-- The class holds all bytes outside ASCII. -/
def HoldsOther (p : UInt8 → Bool) : Prop := ∀ b, 0x80 ≤ b → p b

/-- **A run ends at a boundary.** Behind it there is nothing, or a byte that the class does not
hold. Such a byte is ASCII and begins a character. -/
theorem isBoundary_runLength (hp : HoldsOther p) (t : String) :
    IsBoundary (utf8 t) (runLength p (utf8 t)) := by
  cases hrest : (utf8 t).drop (runLength p (utf8 t)) with
  | nil =>
    have hend : runLength p (utf8 t) = (utf8 t).length :=
      Nat.le_antisymm (runLength_le_length p _) (List.drop_eq_nil_iff.1 hrest)
    rw [hend]
    exact Text.isBoundary_length t
  | cons b r =>
    have hb : b ∈ ((utf8 t).drop (runLength p (utf8 t))).head? := by rw [hrest]; rfl
    refine Text.isBoundary_of_mem_head?_drop hb (UInt8.not_le.1 fun hle ↦ ?_)
    have hstop := eq_false_of_mem_head?_drop_runLength hb
    rw [hp b hle] at hstop
    cases hstop

/-- A run of a class with all bytes outside ASCII. -/
theorem keepsCharacters_run (hp : HoldsOther p) : KeepsCharacters (run p) := by
  intro t
  constructor
  · intro n hn
    obtain rfl := Except.ok.inj hn
    exact isBoundary_runLength hp t
  · exact fun h ↦ nomatch h

/-- A run of such a class that must not be empty. -/
theorem keepsCharacters_run1 (hp : HoldsOther p) : KeepsCharacters (run1 p) := by
  intro t
  constructor
  · intro n hn
    rw [(run1_eq_ok_iff.1 hn).2]
    exact isBoundary_runLength hp t
  · intro f hf
    rw [(run1_eq_error_iff.1 hf).2]
    exact isBoundary_zero t

/-! ### Byte classes -/

theorem isAscii_isAlpha : IsAscii isAlpha := isAscii_of_forall_lt (by decide +kernel)

theorem isAscii_isDigit : IsAscii isDigit := isAscii_of_forall_lt (by decide +kernel)

theorem isAscii_isScheme : IsAscii isScheme := isAscii_of_forall_lt (by decide +kernel)

theorem isAscii_isZone : IsAscii isZone := isAscii_of_forall_lt (by decide +kernel)

/-- What may stand in an address in brackets is ASCII. -/
theorem isAscii_isIpv6Byte : IsAscii isIpv6Byte := isAscii_of_forall_lt (by decide +kernel)

/-- The grammar counts the bytes outside ASCII as unreserved, so every class with the unreserved
bytes has them. -/
theorem holdsOther_of_unreserved (h : ∀ b, isUnreserved b → p b) : HoldsOther p :=
  fun b hb ↦ h b (by simp [isUnreserved, isOther, hb])

/-! ### Components -/

theorem keepsCharacters_mark {c : Char} (hc : byte c < 0x80) : KeepsCharacters (mark c) :=
  keepsCharacters_literal fun _ hb ↦ List.mem_singleton.1 hb ▸ hc

/-- A scheme is read by ASCII classes only. -/
theorem keepsCharacters_scheme : KeepsCharacters scheme :=
  (keepsCharacters_single isAscii_isAlpha).andThen (keepsCharacters_many isAscii_isScheme)

theorem keepsCharacters_absPath : KeepsCharacters absPath :=
  (keepsCharacters_mark (by decide)).andThen
    (keepsCharacters_run (holdsOther_of_unreserved fun b hb ↦ by simp [isPath, hb]))

/-- Segments of paths are runs of classes that hold the bytes outside ASCII. -/
theorem keepsCharacters_relPath : KeepsCharacters relPath :=
  (keepsCharacters_run1 (holdsOther_of_unreserved fun b hb ↦ by simp [isRelSegment, hb])).andThen
    keepsCharacters_absPath.optional

theorem keepsCharacters_ipv6Reference : KeepsCharacters ipv6Reference :=
  have hzone : KeepsCharacters zone :=
    (keepsCharacters_mark (by decide)).andThen (keepsCharacters_many1 isAscii_isZone)
  (keepsCharacters_mark (by decide)).andThen <|
    (keepsCharacters_many1 isAscii_isIpv6Byte).denoting.andThen <|
      hzone.optional.andThen (keepsCharacters_mark (by decide))

/-- User information and names hold such bytes as well, while what stands in brackets does not. -/
theorem keepsCharacters_authority : KeepsCharacters authority := by
  have huser : KeepsCharacters userPart :=
    (keepsCharacters_run (holdsOther_of_unreserved fun b hb ↦ by simp [isUserinfo, hb])).andThen
      (keepsCharacters_mark (by decide))
  have hport : KeepsCharacters portPart :=
    (keepsCharacters_mark (by decide)).andThen (keepsCharacters_many isAscii_isDigit)
  have hname : KeepsCharacters regName :=
    keepsCharacters_run (holdsOther_of_unreserved fun b hb ↦ by simp [isRegName, hb])
  exact (huser.optional.andThen (keepsCharacters_ipv6Reference.andThen hport.optional)).orElse hname

/-- Two slashes that are the whole text are refused at its head; in front of anything else they are
a literal, and the combinators apply. -/
theorem keepsCharacters_netPath : KeepsCharacters netPath := by
  intro t
  have hascii : ∀ b ∈ slashes, b < 0x80 :=
    List.forall_mem_cons.2 ⟨by decide, List.forall_mem_singleton.2 (by decide)⟩
  have hpath : KeepsCharacters ((literal slashes).andThen (authority.andThen absPath.optional)) :=
    (keepsCharacters_literal hascii).andThen
      (keepsCharacters_authority.andThen keepsCharacters_absPath.optional)
  by_cases h : utf8 t = slashes
  · rw [netPath, if_pos h]
    constructor
    · intro n hn
      cases hn
    · intro f hf
      obtain rfl := Except.error.inj hf
      exact isBoundary_zero t
  · rw [netPath_eq_of_ne h]
    exact hpath t

/-- The bar in front of an absolute path looks two bytes ahead, but fails where it stands. -/
theorem keepsCharacters_hierPath : KeepsCharacters hierPath :=
  keepsCharacters_netPath.orElse keepsCharacters_absPath.barring

theorem holdsOther_isUric : HoldsOther isUric :=
  holdsOther_of_unreserved fun b hb ↦ by simp [isUric, hb]

theorem keepsCharacters_query : KeepsCharacters query :=
  (keepsCharacters_mark (by decide)).andThen (keepsCharacters_run holdsOther_isUric)

theorem keepsCharacters_absoluteUri : KeepsCharacters absoluteUri :=
  keepsCharacters_scheme.andThen <| (keepsCharacters_mark (by decide)).andThen <|
    (keepsCharacters_hierPath.andThen keepsCharacters_query.optional).orElse
      (keepsCharacters_run1 holdsOther_isUric).barring

theorem keepsCharacters_relativeUri : KeepsCharacters relativeUri :=
  (keepsCharacters_hierPath.orElse keepsCharacters_relPath).optional.andThen
    keepsCharacters_query.optional

/-- The largest component is put together from the others as its definition is. -/
theorem keepsCharacters_reference : KeepsCharacters reference :=
  (keepsCharacters_absoluteUri.orElse keepsCharacters_relativeUri).andThen
    ((keepsCharacters_mark (by decide)).andThen (keepsCharacters_run holdsOther_isUric)).optional

end Uri

namespace Ipv4

open Recogniser Text

variable {f : Failure}

/-! ### Dotted quads -/

/-- An octet fails where it starts, also if it is a number that is too large. -/
theorem offset_of_octet_eq_error (h : octet s = .error f) : f.offset = 0 := by
  rw [octet] at h
  split at h
  · rw [← Except.error.inj h]
  · split at h
    · cases h
    · rw [← Except.error.inj h]

/-- The digits of an octet are ASCII, so it ends at a boundary if it starts at one. -/
theorem atBoundary_octetAfter (hn : IsBoundary s n) : AtBoundary s Prod.snd (octetAfter n s) := by
  obtain ⟨t, ht⟩ := hn.after
  constructor
  · rintro ⟨o, m⟩ hm
    obtain ⟨g, r, hs, hg, rfl, -⟩ := octetAfter_eq_ok_iff.1 hm
    refine hn.add (ht ▸ isBoundary_of_forall_mem_take ?_ ?_)
    · rw [ht, hs]
      exact (List.prefix_append g r).length_le
    · rw [ht, hs, List.take_left]
      exact fun b hb ↦ Uri.isAscii_isDigit b (hg.digits b hb)
  · intro f hf
    rw [octetAfter] at hf
    split at hf
    · cases hf
    · next g hg =>
      obtain rfl := Except.error.inj hf
      rw [Failure.shift, offset_of_octet_eq_error hg]
      exact hn

theorem atBoundary_dotAfter (hn : IsBoundary s n) : AtBoundary s id (dotAfter n s) :=
  (Uri.keepsCharacters_mark (c := '.') (by decide)).after hn

/-- A dotted quad is read from boundary to boundary, octet by octet. -/
theorem atBoundary_quad (t : String) : AtBoundary (utf8 t) Prod.snd (quad (utf8 t)) :=
  (atBoundary_octetAfter (isBoundary_zero t)).bind fun _ h₁ ↦ (atBoundary_dotAfter h₁).bind
    fun _ h₂ ↦ (atBoundary_octetAfter h₂).bind fun _ h₃ ↦ (atBoundary_dotAfter h₃).bind
    fun _ h₄ ↦ (atBoundary_octetAfter h₄).bind fun _ h₅ ↦ (atBoundary_dotAfter h₅).bind
    fun _ h₆ ↦ (atBoundary_octetAfter h₆).bind fun _ h₇ ↦
      ⟨fun h ↦ Except.ok.inj h ▸ h₇, (nomatch ·)⟩

end Ipv4

open Uri in
/-- **No component cuts a character.** Given the bytes of any text, each component of a URI
reference, and a dotted quad, is matched up to a boundary, so that what is matched and what is left
are texts again; and where there is no match, the failure was found at a boundary within the
text. -/
theorem components_keep_characters (t : String) :
    AtBoundary (utf8 t) id (scheme (utf8 t)) ∧
      AtBoundary (utf8 t) id (authority (utf8 t)) ∧
      AtBoundary (utf8 t) id (netPath (utf8 t)) ∧
      AtBoundary (utf8 t) id (absPath (utf8 t)) ∧
      AtBoundary (utf8 t) id (relPath (utf8 t)) ∧
      AtBoundary (utf8 t) id (ipv6Reference (utf8 t)) ∧
      AtBoundary (utf8 t) Prod.snd (Ipv4.quad (utf8 t)) ∧
      AtBoundary (utf8 t) id (absoluteUri (utf8 t)) ∧
      AtBoundary (utf8 t) id (relativeUri (utf8 t)) ∧
      AtBoundary (utf8 t) id (reference (utf8 t)) :=
  ⟨keepsCharacters_scheme t, keepsCharacters_authority t, keepsCharacters_netPath t,
    keepsCharacters_absPath t, keepsCharacters_relPath t, keepsCharacters_ipv6Reference t,
    Ipv4.atBoundary_quad t, keepsCharacters_absoluteUri t, keepsCharacters_relativeUri t,
    keepsCharacters_reference t⟩

end AccessPoint

import AccessPoint.Proofs.Uri.Prefix
import AccessPoint.Proofs.Uri.Rounds

/-!
# Why and where components fail

The failure of a component is that of the alternative which was tried last, and it counts from the
start of the bytes. Said without the recognisers: an authority, a relative URI and a reference never
fail; a path fails at once, for want of what it begins with; and an absolute URI fails at one of
four places (`AbsoluteFault`). Repetition adds no failure of its own, since no round of it stalls
(`failures_located`).

Behind a scheme and its colon, two slashes alone are the one case in which a hierarchical part that
was begun is given up. The opaque part, tried last, then fails because of the slash; where there is
no slash, it fails for want of a byte to begin with.

Each lemma is an equivalence, `component s = .error f ↔ …`, so that the cause and the offset are
fixed by it and not merely bounded. They are put together from those of the combinators in three
steps that repeat.

* A part that cannot fail drops out of a sequence (`andThen_eq_error_iff_left`). With it a network
  path fails only at its slashes, and a hierarchical part only where its path does.
* A choice fails where both alternatives do, with the failure of the second. The failure of the
  first is quantified away, and only *that* it failed is used to rule out cases of the second.
* In a sequence that fails behind its first part the offset is shifted by what was matched. This
  happens once, behind the colon of an absolute URI (`absoluteUri_append_eq_error_iff`), and is why
  a scheme has to be known as the maximal one (`MaximalScheme`).
-/

namespace AccessPoint.Uri

open Ascii Recogniser Grammar

variable {s t a rest : List UInt8} {n : Nat} {f : Failure}

/-! ### Authorities and paths -/

/-- The registered name, tried last, may be empty. -/
theorem authority_ne_error : authority s ≠ .error f :=
  fun h ↦ run_ne_error (orElse_eq_error_iff.1 h).2

/-- A network path fails for want of its slashes, or because they are all there is. -/
theorem netPath_eq_error_iff :
    netPath s = .error f ↔
      ¬slashes <+: s ∧ f = ⟨.literal, 0⟩ ∨ s = slashes ∧ f = ⟨.bare, 0⟩ := by
  by_cases hs : s = slashes
  · subst hs
    simp [netPath, eq_comm (a := f)]
  · -- behind the slashes nothing fails
    have hrest : ∀ {t g}, (authority.andThen absPath.optional) t ≠ .error g :=
      fun h ↦ authority_ne_error ((andThen_eq_error_iff_left optional_ne_error).1 h)
    rw [netPath_eq_of_ne hs, andThen_eq_error_iff_left hrest, literal_eq_error_iff,
      or_iff_left fun h ↦ hs h.1]

/-- A relative path fails for want of a first segment. -/
theorem relPath_eq_error_iff :
    relPath s = .error f ↔ ¬BeginsRun isRelSegment s ∧ f = ⟨.run, 0⟩ := by
  rw [relPath, andThen_eq_error_iff_left optional_ne_error, run1_eq_error_iff,
    runLength_eq_zero_iff]

theorem head?_of_slashes_isPrefix (h : slashes <+: s) : s.head? = some (byte '/') := by
  obtain ⟨r, rfl⟩ := h
  rfl

/-- A hierarchical path that begins with a slash fails only where it is two slashes in all. -/
theorem hierPath_eq_error_iff :
    hierPath s = .error f ↔
      s.head? ≠ some (byte '/') ∧ f = ⟨.literal, 0⟩ ∨ s = slashes ∧ f = ⟨.excluded, 0⟩ := by
  rw [hierPath, orElse_eq_error_iff, barring_eq_error_iff, absPath_eq_error_iff]
  constructor
  · intro h
    obtain ⟨⟨g, hg⟩, ⟨hpre, rfl⟩ | ⟨-, hhead⟩⟩ := h
    · rcases netPath_eq_error_iff.1 hg with ⟨hno, -⟩ | ⟨rfl, -⟩
      · exact absurd hpre hno
      · exact .inr ⟨rfl, rfl⟩
    · exact .inl hhead
  · intro h
    rcases h with ⟨hhead, rfl⟩ | ⟨rfl, rfl⟩
    · have hno : ¬slashes <+: s := fun h ↦ hhead (head?_of_slashes_isPrefix h)
      exact ⟨⟨_, netPath_eq_error_iff.2 (.inl ⟨hno, rfl⟩)⟩, .inr ⟨hno, hhead, rfl⟩⟩
    · exact ⟨⟨_, netPath_eq_error_iff.2 (.inr ⟨rfl, rfl⟩)⟩, .inl ⟨List.prefix_rfl, rfl⟩⟩

/-! ### Behind the colon -/

/-- The query of a hierarchical part may be absent, so only its path fails. -/
theorem hierPart_eq_error_iff : hierPart s = .error f ↔ hierPath s = .error f :=
  andThen_eq_error_iff_left optional_ne_error

/-- An opaque part fails because of a slash or for want of a byte to begin with. -/
theorem opaquePart_eq_error_iff :
    opaquePart s = .error f ↔
      s.head? = some (byte '/') ∧ f = ⟨.excluded, 0⟩ ∨ ¬BeginsRun isUric s ∧ f = ⟨.run, 0⟩ := by
  rw [opaquePart, barring_eq_error_iff, singleton_prefix_iff, run1_eq_error_iff,
    runLength_eq_zero_iff]
  -- a slash begins a run, so it need not be ruled out in the second case
  refine or_congr_right ⟨And.right, fun h ↦ ⟨fun hslash ↦ h.1 (.inl ⟨_, hslash, ?_⟩), h⟩⟩
  decide

/-- **What may fail behind the colon.** A slash that is no hierarchical part is one of two that
stand alone. -/
theorem hierPart_orElse_opaquePart_eq_error_iff :
    (hierPart.orElse opaquePart) s = .error f ↔
      s = slashes ∧ f = ⟨.excluded, 0⟩ ∨ ¬BeginsRun isUric s ∧ f = ⟨.run, 0⟩ := by
  simp only [orElse_eq_error_iff, hierPart_eq_error_iff, opaquePart_eq_error_iff]
  constructor
  · intro h
    obtain ⟨⟨g, hg⟩, ⟨hslash, rfl⟩ | hrun⟩ := h
    · rcases hierPath_eq_error_iff.1 hg with ⟨hno, -⟩ | ⟨rfl, -⟩
      · exact absurd hslash hno
      · exact .inl ⟨rfl, rfl⟩
    · exact .inr hrun
  · intro h
    rcases h with ⟨rfl, rfl⟩ | ⟨hno, rfl⟩
    · exact ⟨⟨_, hierPath_eq_error_iff.2 (.inr ⟨rfl, rfl⟩)⟩, .inl ⟨rfl, rfl⟩⟩
    · have hhead : s.head? ≠ some (byte '/') := fun h ↦ hno (.inl ⟨_, h, by decide⟩)
      exact ⟨⟨_, hierPath_eq_error_iff.2 (.inl ⟨hhead, rfl⟩)⟩, .inr ⟨hno, rfl⟩⟩

/-! ### Schemes -/

theorem scheme_eq_error_iff :
    scheme s = .error f ↔ (¬∃ b ∈ s.head?, isAlpha b) ∧ f = ⟨.count, 0⟩ := by
  rw [scheme, andThen_eq_error_iff_left many_ne_error, single_eq_error_iff]

/-- `a` is a scheme, and what follows does not carry it on. -/
def MaximalScheme (a rest : List UInt8) : Prop := Scheme a ∧ ¬∃ b ∈ rest.head?, isScheme b

/-- A scheme goes as far as its bytes do. -/
theorem scheme_eq_ok_iff :
    scheme s = .ok n ↔ ∃ a rest, s = a ++ rest ∧ MaximalScheme a rest ∧ n = a.length := by
  simp only [scheme, andThen_eq_ok_iff, single_eq_ok_iff]
  constructor
  · intro h
    obtain ⟨_, _, ⟨⟨b, hb, hletter⟩, rfl⟩, hk, rfl⟩ := h
    obtain ⟨t, rfl⟩ := List.head?_eq_some_iff.1 hb
    obtain rfl := Except.ok.inj hk
    refine ⟨b :: t.takeWhile isScheme, t.dropWhile isScheme, ?_, ⟨⟨b, _, rfl, hletter, ?_⟩, ?_⟩, ?_⟩
    · rw [List.cons_append, List.takeWhile_append_dropWhile]
    · exact fun c hc ↦ List.mem_takeWhile_imp hc
    · intro hcarry
      obtain ⟨c, hc, hcs⟩ := hcarry
      have := List.head?_dropWhile_not isScheme t
      rw [Option.mem_def.1 hc] at this
      simp [hcs] at this
    · rw [List.length_cons, Nat.add_comm]
      rfl
  · intro h
    obtain ⟨_, rest, rfl, ⟨⟨b, t, rfl, hletter, ht⟩, hend⟩, rfl⟩ := h
    refine ⟨1, t.length, ⟨⟨b, rfl, hletter⟩, rfl⟩, congrArg Except.ok ?_, ?_⟩
    · have htake : (t ++ rest).takeWhile isScheme = t := by
        rw [List.takeWhile_append_of_pos ht, takeWhile_eq_nil_iff_head?.2 hend, List.append_nil]
      exact congrArg List.length htake
    · rw [List.length_cons, Nat.add_comm]

/-- A scheme ends in front of a colon. -/
theorem maximalScheme_colon (ha : Scheme a) : MaximalScheme a (byte ':' :: rest) := by
  refine ⟨ha, fun h ↦ ?_⟩
  obtain ⟨b, hb, hscheme⟩ := h
  obtain rfl := Option.some.inj hb
  exact absurd hscheme (by decide)

/-! ### Absolute URIs -/

/-- The four ways in which bytes fail to begin with an absolute URI. -/
inductive AbsoluteFault : List UInt8 → Failure → Prop
  /-- There is no letter at the head. -/
  | noLetter {s : List UInt8} : (¬∃ b ∈ s.head?, isAlpha b) → AbsoluteFault s ⟨.count, 0⟩
  /-- The scheme is not followed by a colon. -/
  | noColon {a rest : List UInt8} : MaximalScheme a rest → rest.head? ≠ some (byte ':') →
    AbsoluteFault (a ++ rest) ⟨.literal, a.length⟩
  /-- There are two slashes behind the colon, and nothing else. -/
  | bare {a : List UInt8} : Scheme a →
    AbsoluteFault (a ++ byte ':' :: slashes) ⟨.excluded, a.length + 1⟩
  /-- Behind the colon there is no escape and no byte that a query may hold, which a slash is. -/
  | noPart {a rest : List UInt8} : Scheme a → ¬BeginsRun isUric rest →
    AbsoluteFault (a ++ byte ':' :: rest) ⟨.run, a.length + 1⟩

/-- Behind a scheme, the colon is missing or else what follows the colon fails. -/
theorem absoluteUri_append_eq_error_iff (ha : MaximalScheme a rest) :
    absoluteUri (a ++ rest) = .error f ↔
      rest.head? ≠ some (byte ':') ∧ f = ⟨.literal, a.length⟩ ∨
        ∃ r g, rest = byte ':' :: r ∧ (hierPart.orElse opaquePart) r = .error g ∧
          f = g.shift (a.length + 1) := by
  have hscheme : scheme (a ++ rest) = .ok a.length := scheme_eq_ok_iff.2 ⟨a, rest, rfl, ha, rfl⟩
  have hcolon : absoluteUri (a ++ rest) =
      ((mark ':').andThen (hierPart.orElse opaquePart)).after a.length (a ++ rest) := by
    simp only [absoluteUri, andThen, hscheme]
  rw [hcolon, after_eq_error_iff, List.drop_left]
  simp only [andThen_eq_error_iff, mark, literal_eq_error_iff, literal_eq_ok_iff,
    singleton_prefix_iff]
  constructor
  · intro h
    obtain ⟨g, ⟨hno, rfl⟩ | ⟨_, g, ⟨hhead, rfl⟩, hg, rfl⟩, rfl⟩ := h
    · exact .inl ⟨hno, rfl⟩
    · obtain ⟨r, rfl⟩ := List.head?_eq_some_iff.1 hhead
      exact .inr ⟨r, g, rfl, hg, by simp [Failure.shift, Nat.add_assoc]⟩
  · intro h
    rcases h with ⟨hno, rfl⟩ | ⟨r, g, rfl, hg, rfl⟩
    · exact ⟨_, .inl ⟨hno, rfl⟩, rfl⟩
    · exact ⟨_, .inr ⟨1, g, ⟨rfl, rfl⟩, hg, rfl⟩, by simp [Failure.shift, Nat.add_assoc]⟩

/-- **The failures of an absolute URI** are the four of `AbsoluteFault`, each with its offset. -/
theorem absoluteUri_eq_error_iff : absoluteUri s = .error f ↔ AbsoluteFault s f := by
  constructor
  · intro h
    cases hscheme : scheme s with
    | error g =>
      obtain ⟨hno, rfl⟩ := scheme_eq_error_iff.1 hscheme
      simp only [absoluteUri, andThen, hscheme] at h
      obtain rfl := Except.error.inj h
      exact .noLetter hno
    | ok n =>
      obtain ⟨a, rest, rfl, ha, -⟩ := scheme_eq_ok_iff.1 hscheme
      rcases (absoluteUri_append_eq_error_iff ha).1 h with ⟨hno, rfl⟩ | ⟨r, g, rfl, hg, rfl⟩
      · exact .noColon ha hno
      · rcases hierPart_orElse_opaquePart_eq_error_iff.1 hg with ⟨rfl, rfl⟩ | ⟨hno, rfl⟩
        · exact .bare ha.1
        · exact .noPart ha.1 hno
  · intro h
    cases h with
    | noLetter hno => exact andThen_eq_error_iff.2 (.inl (scheme_eq_error_iff.2 ⟨hno, rfl⟩))
    | noColon ha hno => exact (absoluteUri_append_eq_error_iff ha).2 (.inl ⟨hno, rfl⟩)
    | bare ha =>
      exact (absoluteUri_append_eq_error_iff (maximalScheme_colon ha)).2
        (.inr ⟨_, _, rfl, hierPart_orElse_opaquePart_eq_error_iff.2 (.inl ⟨rfl, rfl⟩), rfl⟩)
    | noPart ha hno =>
      exact (absoluteUri_append_eq_error_iff (maximalScheme_colon ha)).2
        (.inr ⟨_, _, rfl, hierPart_orElse_opaquePart_eq_error_iff.2 (.inr ⟨hno, rfl⟩), rfl⟩)

/-! ### All components -/

/-- **Why and where components fail.** Of any bytes a prefix is an authority, a relative URI and a
reference. An absolute path fails exactly if no slash begins the bytes, a network path if no two
slashes do, or if they are all there is, and a relative path if neither a byte of its first segment
nor an escape does. An absolute URI has exactly the failures of `AbsoluteFault`. And taken in
rounds, runs and further paths end where they end in one go: no round stalls. -/
theorem failures_located (s : List UInt8) :
    (∃ n, authority s = .ok n) ∧ (∃ n, relativeUri s = .ok n) ∧ (∃ n, reference s = .ok n) ∧
      (∀ f, absPath s = .error f ↔ s.head? ≠ some (byte '/') ∧ f = ⟨.literal, 0⟩) ∧
      (∀ f, netPath s = .error f ↔
        ¬slashes <+: s ∧ f = ⟨.literal, 0⟩ ∨ s = slashes ∧ f = ⟨.bare, 0⟩) ∧
      (∀ f, relPath s = .error f ↔ ¬BeginsRun isRelSegment s ∧ f = ⟨.run, 0⟩) ∧
      (∀ f, absoluteUri s = .error f ↔ AbsoluteFault s f) ∧
      (∀ p ∈ [isUserinfo, isRegName, isPath, isUric],
        rounds (piece p) s = (run p s).mapError .failed) ∧
      (∀ p ∈ [isRelSegment, isUric], rounds1 (piece p) s = (run1 p s).mapError .failed) ∧
      rounds absPath s = (absPath.optional s).mapError .failed := by
  refine ⟨?_, ?_, exists_reference_eq_ok s, fun _ ↦ absPath_eq_error_iff,
    fun _ ↦ netPath_eq_error_iff, fun _ ↦ relPath_eq_error_iff, fun _ ↦ absoluteUri_eq_error_iff,
    ?_, ?_, rounds_absPath s⟩
  · cases h : authority s with
    | ok n => exact ⟨n, rfl⟩
    | error f => exact absurd h authority_ne_error
  · cases h : relativeUri s with
    | ok n => exact ⟨n, rfl⟩
    | error f => exact absurd h relativeUri_ne_error
  · intro p hp
    refine rounds_piece ?_ s
    simp only [List.mem_cons, List.not_mem_nil, or_false] at hp
    rcases hp with rfl | rfl | rfl | rfl <;> rfl
  · intro p hp
    refine rounds1_piece ?_ s
    simp only [List.mem_cons, List.not_mem_nil, or_false] at hp
    rcases hp with rfl | rfl <;> rfl

/-- Behind the colon the percent sign begins no escape, and a run of query bytes ends in front of
it. -/
theorem failures_located_percent :
    AbsoluteFault (Text.utf8 "http:%zz") ⟨.run, 5⟩ ∧
      rounds (piece isUric) (Text.utf8 "http:%zz") = .ok 5 := by
  obtain ⟨-, -, -, -, -, -, habs, hruns, -⟩ := failures_located (Text.utf8 "http:%zz")
  have hmem : isUric ∈ [isUserinfo, isRegName, isPath, isUric] := by simp
  exact ⟨(habs _).1 (by decide), (hruns isUric hmem).trans (by decide)⟩

end AccessPoint.Uri

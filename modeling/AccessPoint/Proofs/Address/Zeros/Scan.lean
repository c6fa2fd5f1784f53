import AccessPoint.Proofs.Address.Zeros.Plain

/-!
# The scan drops the padding

The scan for padded literals answers what is said plainly in `Zeros.Plain` (`utf8_trimZeros`,
`trimZeros_by_stretches`).

A state of the scan knows the byte in front of the place looked at, and this is all it has to know
of the text behind it: `resumed` is what becomes of the text from there on. The invariant
(`Scan.Accounts`) says that what is built and the source text waiting to be copied, with the resumed
text behind them, are the whole text without padding. Every step keeps it (`Scan.Accounts.step`),
and every step moves on (`Scan.length_rest_step_lt`).

## Why the text from a place on is not a text of its own

The plain description rewrites maximal stretches, and a scan that stands within a stretch does not
see where it began. What is left would look like a text that begins with a stretch of its own, and
might begin with a literal that is none. `resumed` therefore takes the byte in front into account:
if it is a digit or a dot, the stretch that goes on is kept as it is. Its three lemmas are the three
things a step may meet.

* No literal stands here: one byte stays, and the byte that was passed over is in front now
  (`resumed_cons_of_standing?_eq_none`). Within a stretch this is what carries the knowledge on.
* A literal stands here: it is canonical from here to its end, and behind it a new text begins
  (`resumed_of_standing?`).
* No stretch goes on here, and the text from here on is a text of its own (`resumed_of_clear`).

## The two ways of moving on

Bytes that stay are passed over and wait to be copied (`Accounts.skip`); this serves single bytes
and literals that are canonical already. A literal that is not canonical is replaced, with all that
waited in front of it copied first (`Accounts.replace`). The proof of the latter is the only place
where the account of the whole text is taken apart.
-/

namespace AccessPoint.Zeros

open Ascii Ipv4 Plain

variable {source rest s t : List UInt8} {before : Option UInt8} {ip : Ipv4} {n : Nat}

/-! ### Standing literals -/

theorem any_head?_eq_false_iff : s.head?.any isQuadByte = false ↔ Clear s := by
  cases s with
  | nil => simp [Clear]
  | cons b s => simp [Clear]

/-- A literal stands where four octets are a maximal stretch of digits and dots. -/
theorem standing?_eq_some_iff :
    standing? before rest = some (ip, n) ↔
      before.any isQuadByte = false ∧
        ∃ r s, rest = r ++ s ∧ n = r.length ∧ IsQuad ip r ∧ Clear s := by
  have hnext : ∀ r s : List UInt8, (r ++ s)[r.length]?.any isQuadByte = false ↔ Clear s := by
    intro r s
    rw [List.getElem?_append_right (Nat.le_refl _), Nat.sub_self, ← List.head?_eq_getElem?,
      any_head?_eq_false_iff]
  rw [standing?]
  by_cases hb : before.any isQuadByte
  · simp [hb]
  rw [if_neg hb]
  rw [Bool.not_eq_true] at hb
  simp only [hb, true_and]
  constructor
  · intro h
    split at h
    · next ip' m hquad =>
      obtain ⟨a, b, c, d, s, rfl, rfl, ⟨ha, hb', hc, hd⟩, -⟩ := quad_eq_ok_iff.1 hquad
      split at h
      · cases h
      · next hany =>
        obtain ⟨rfl, rfl⟩ := Prod.mk.inj (Option.some.inj h)
        rw [Bool.not_eq_true, hnext] at hany
        exact ⟨_, s, rfl, rfl, ⟨a, b, c, d, rfl, ha, hb', hc, hd⟩, hany⟩
    · cases h
  · intro h
    obtain ⟨r, s, rfl, rfl, ⟨a, b, c, d, rfl, hoct⟩, hs⟩ := h
    have hstop : ∀ x ∈ s.head?, isDigit x = false := by
      intro x hx
      have := hs x hx
      rw [isQuadByte, Bool.or_eq_false_iff] at this
      exact this.1
    have hquad := quad_eq_ok_iff.2 ⟨a, b, c, d, s, rfl, rfl, hoct, .inr hstop⟩
    rw [hquad]
    exact if_neg (by rw [(hnext _ s).2 hs]; exact Bool.false_ne_true)

/-- A literal that stands holds some bytes, and no more than there are. -/
theorem length_of_standing? (h : standing? before rest = some (ip, n)) :
    0 < n ∧ n ≤ rest.length := by
  obtain ⟨-, r, s, rfl, rfl, hquad, -⟩ := standing?_eq_some_iff.1 h
  refine ⟨List.length_pos_of_ne_nil ?_, by simp⟩
  rintro rfl
  obtain ⟨a, b, c, d, hnil, -⟩ := hquad
  exact absurd hnil (by simp [dotted])

/-! ### The text from a place on -/

/-- What becomes of the text from a place on, when `before` stands in front of it: the digits and
dots that go on a stretch are no literal, and stay. -/
def resumed (before : Option UInt8) (rest : List UInt8) : List UInt8 :=
  if before.any isQuadByte then
    rest.takeWhile isQuadByte ++ withoutPadding (rest.dropWhile isQuadByte)
  else withoutPadding rest

/-- Where no stretch goes on, what stands in front does not matter. -/
theorem resumed_of_clear (h : Clear rest) : resumed before rest = withoutPadding rest := by
  rw [resumed]
  split
  · cases rest with
    | nil => rfl
    | cons b rest =>
      have hb : isQuadByte b = false := h b rfl
      rw [List.takeWhile_cons_of_neg (by simp [hb]), List.dropWhile_cons_of_neg (by simp [hb]),
        List.nil_append]
  · rfl

/-- Where no literal stands, the next byte stays. -/
theorem resumed_cons_of_standing?_eq_none {b : UInt8} (h : standing? before (b :: rest) = none) :
    resumed before (b :: rest) = b :: resumed (some b) rest := by
  by_cases hb : isQuadByte b
  · have hrest : resumed (some b) rest =
        rest.takeWhile isQuadByte ++ withoutPadding (rest.dropWhile isQuadByte) := if_pos hb
    by_cases hbefore : before.any isQuadByte
    · rw [resumed, if_pos hbefore, List.takeWhile_cons_of_pos hb, List.dropWhile_cons_of_pos hb,
        List.cons_append, hrest]
    · -- the stretch begins here, and it is no literal
      have hsplit := List.takeWhile_append_dropWhile (p := isQuadByte) (l := b :: rest)
      have hquad : ∀ x ∈ (b :: rest).takeWhile isQuadByte, isQuadByte x := fun x hx ↦
        List.mem_takeWhile_imp hx
      have hclear : Clear ((b :: rest).dropWhile isQuadByte) := fun x hx ↦
        eq_false_of_mem_head?_dropWhile hx
      have hnone : literal? ((b :: rest).takeWhile isQuadByte) = none := by
        rw [literal?_eq_none_iff]
        intro ip hip
        have hstands := standing?_eq_some_iff.2 ⟨by simpa using hbefore, _, _, hsplit.symm, rfl,
          hip, hclear⟩
        rw [h] at hstands
        cases hstands
      rw [resumed, if_neg hbefore, ← hsplit, withoutPadding_append_of_quadBytes hquad hclear,
        trimStretch_of_eq_none hnone, List.takeWhile_cons_of_pos hb, List.dropWhile_cons_of_pos hb,
        List.cons_append, hrest]
  · rw [Bool.not_eq_true] at hb
    have hrest : resumed (some b) rest = withoutPadding rest := if_neg (by simp [hb])
    rw [resumed_of_clear (clear_cons hb), withoutPadding_cons hb, hrest]

/-- A literal that stands is written canonically, and what follows it is a text of its own. -/
theorem resumed_of_standing? (h : standing? before rest = some (ip, n)) :
    resumed before rest = Text.utf8 ip.text ++ withoutPadding (rest.drop n) := by
  obtain ⟨hbefore, r, s, rfl, rfl, hquad, hs⟩ := standing?_eq_some_iff.1 h
  rw [resumed, if_neg (by simp [hbefore]), List.drop_left,
    withoutPadding_append_of_quadBytes (fun b hb ↦ isQuadByte_of_isQuad hquad hb) hs,
    trimStretch_of_literal? (literal?_eq_some_iff.2 hquad)]

/-! ### The invariant -/

namespace Scan

variable {σ : Scan}

/-- The places of the state are places of the source, what is built is the source up to `copied`
without padding, and it makes up the whole source without padding together with the bytes up to
`pos`, as they are, and the text resumed at `pos`. -/
structure Accounts (source : List UInt8) (σ : Scan) : Prop where
  copied_le : σ.copied ≤ σ.pos
  pos_le : σ.pos ≤ source.length
  before : σ.before = (source.take σ.pos).getLast?
  uncopied : σ.uncopied = source.drop σ.copied
  rest : σ.rest = source.drop σ.pos
  built : σ.built.toList = withoutPadding (source.take σ.copied)
  whole : withoutPadding source =
    σ.built.toList ++ σ.uncopied.take (σ.pos - σ.copied) ++ resumed σ.before σ.rest

/-- At the start nothing is built, and all of the text is still to come. -/
theorem accounts_start (source : List UInt8) : Accounts source (start source) where
  copied_le := Nat.le_refl 0
  pos_le := Nat.zero_le _
  before := rfl
  uncopied := rfl
  rest := rfl
  built := rfl
  whole := rfl

namespace Accounts

/-- Bytes that stay as they are may be passed over. -/
theorem skip (h : Accounts source σ) (hpos : 0 < n) (hlen : n ≤ σ.rest.length)
    (hresumed : resumed σ.before σ.rest =
      σ.rest.take n ++ resumed (σ.rest.take n).getLast? (σ.rest.drop n)) :
    Accounts source (σ.skip n) where
  copied_le := Nat.le_add_right_of_le h.copied_le
  pos_le := by
    have := h.pos_le
    rw [h.rest, List.length_drop] at hlen
    show σ.pos + n ≤ source.length
    omega
  before := by
    have hne : σ.rest.take n ≠ [] := by
      rw [← List.length_pos_iff, List.length_take]
      omega
    show (σ.rest.take n).getLast? = (source.take (σ.pos + n)).getLast?
    rw [List.take_add, ← h.rest, List.getLast?_append_of_ne_nil _ hne]
  uncopied := h.uncopied
  rest := by
    show σ.rest.drop n = source.drop (σ.pos + n)
    rw [h.rest, List.drop_drop]
  built := h.built
  whole := by
    -- the bytes passed over are pending
    have htake : σ.uncopied.take (σ.pos + n - σ.copied) =
        σ.uncopied.take (σ.pos - σ.copied) ++ σ.rest.take n := by
      have := h.copied_le
      rw [Nat.sub_add_comm this, List.take_add, h.uncopied, List.drop_drop, h.rest,
        Nat.add_sub_cancel' this]
    show _ = σ.built.toList ++ σ.uncopied.take (σ.pos + n - σ.copied) ++
      resumed (σ.rest.take n).getLast? (σ.rest.drop n)
    rw [h.whole, hresumed, htake]
    simp only [List.append_assoc]

/-- A literal that stands may be replaced: the source up to its end is then built. -/
theorem replace (h : Accounts source σ) (hstands : standing? σ.before σ.rest = some (ip, n)) :
    Accounts source
      { σ.skip n with
        copied := σ.pos + n
        uncopied := σ.rest.drop n
        built := σ.built ++ σ.uncopied.take (σ.pos - σ.copied) ++ Text.utf8 ip.text } := by
  obtain ⟨hpos, hlen⟩ := length_of_standing? hstands
  obtain ⟨hbefore, r, s, hrest, rfl, hquad, hs⟩ := standing?_eq_some_iff.1 hstands
  have hdrop : σ.rest.drop r.length = s := by rw [hrest, List.drop_left]
  have htake : σ.rest.take r.length = r := by rw [hrest, List.take_left]
  -- the source may be cut in front of the literal, and what is built and pending is its first part
  have hlast : ∀ x ∈ (source.take σ.pos).getLast?, isQuadByte x = false := by
    intro x hx
    rw [← h.before] at hx
    simpa [Option.mem_def.1 hx] using hbefore
  have hcut : σ.built.toList ++ σ.uncopied.take (σ.pos - σ.copied) =
      withoutPadding (source.take σ.pos) := by
    have hwhole := h.whole
    rw [← List.take_append_drop σ.pos source, withoutPadding_append (.inl hlast), ← h.rest, resumed,
      if_neg (by simp [hbefore])] at hwhole
    exact (List.append_cancel_right hwhole).symm
  have hliteral : withoutPadding r = Text.utf8 ip.text := by
    rw [withoutPadding_of_quadBytes fun b hb ↦ isQuadByte_of_isQuad hquad hb,
      trimStretch_of_literal? (literal?_eq_some_iff.2 hquad)]
  constructor
  case copied_le => exact Nat.le_refl _
  case pos_le =>
    have := h.pos_le
    rw [h.rest, List.length_drop] at hlen
    show σ.pos + r.length ≤ source.length
    omega
  case before =>
    show (σ.rest.take r.length).getLast? = (source.take (σ.pos + r.length)).getLast?
    rw [List.take_add, ← h.rest, htake,
      List.getLast?_append_of_ne_nil _ (List.ne_nil_of_length_pos hpos)]
  case uncopied =>
    show σ.rest.drop r.length = source.drop (σ.pos + r.length)
    rw [h.rest, List.drop_drop]
  case rest =>
    show σ.rest.drop r.length = source.drop (σ.pos + r.length)
    rw [h.rest, List.drop_drop]
  case built =>
    show (σ.built ++ σ.uncopied.take (σ.pos - σ.copied) ++ Text.utf8 ip.text).toList =
      withoutPadding (source.take (σ.pos + r.length))
    rw [List.take_add, ← h.rest, htake, withoutPadding_append (.inl hlast), hliteral, ← hcut]
    simp
  case whole =>
    show _ = (σ.built ++ σ.uncopied.take (σ.pos - σ.copied) ++ Text.utf8 ip.text).toList ++
      (σ.rest.drop r.length).take (σ.pos + r.length - (σ.pos + r.length)) ++
        resumed (σ.rest.take r.length).getLast? (σ.rest.drop r.length)
    rw [h.whole, resumed_of_standing? hstands, hdrop, resumed_of_clear hs, Nat.sub_self]
    simp

/-- A step keeps the account. -/
theorem step (h : Accounts source σ) : Accounts source σ.step := by
  rw [Scan.step]
  split
  · exact h
  next hne =>
  obtain ⟨b, rest, hrest⟩ := List.exists_cons_of_ne_nil (l := σ.rest) (by simpa using hne)
  split
  · next hnone =>
    refine h.skip Nat.one_pos (by simp [hrest]) ?_
    rw [hrest] at hnone ⊢
    exact resumed_cons_of_standing?_eq_none hnone
  · next ip n hstands =>
    obtain ⟨hpos, hlen⟩ := length_of_standing? hstands
    dsimp only
    split
    · next hcanonical =>
      obtain ⟨-, r, s, hrs, rfl, -, hs⟩ := standing?_eq_some_iff.1 hstands
      refine h.skip hpos hlen ?_
      rw [resumed_of_standing? hstands, resumed_of_clear, hcanonical]
      rwa [hrs, List.drop_left]
    · exact h.replace hstands

theorem steps (h : Accounts source σ) (n : Nat) : Accounts source (steps n σ) := by
  induction n generalizing σ with
  | zero => exact h
  | succ n ih => exact ih h.step

end Accounts

/-- As long as there is text left, a step moves on. -/
theorem length_rest_step_lt (h : σ.rest ≠ []) : σ.step.rest.length < σ.rest.length := by
  have hpos := List.length_pos_of_ne_nil h
  have hdrop : ∀ n, 0 < n → (σ.rest.drop n).length < σ.rest.length := by
    intro n hn
    rw [List.length_drop]
    omega
  rw [step, if_neg (by simpa using h)]
  split
  · exact hdrop 1 Nat.one_pos
  · next ip n hstands =>
    have hn := (length_of_standing? hstands).1
    dsimp only
    split
    · exact hdrop n hn
    · exact hdrop n hn

/-- As many steps as there are bytes left lead to the end. -/
theorem rest_steps_eq_nil (h : σ.rest.length ≤ n) : (steps n σ).rest = [] := by
  induction n generalizing σ with
  | zero => exact List.length_eq_zero_iff.1 (Nat.le_zero.1 h)
  | succ n ih =>
    rw [steps]
    refine ih ?_
    by_cases hrest : σ.rest = []
    · rw [step, if_pos (by simp [hrest]), hrest]
      exact Nat.zero_le n
    · have := length_rest_step_lt hrest
      omega

theorem accounts_run (source : List UInt8) : Accounts source (run source) :=
  (accounts_start source).steps source.length

/-- The scan of a text answers the text without padding. -/
theorem result_run (source : List UInt8) : (run source).result = withoutPadding source := by
  have h := accounts_run source
  have hend : (run source).rest = [] := rest_steps_eq_nil (Nat.le_refl _)
  -- at the end, all that is not copied is pending
  have hall : (run source).uncopied.take ((run source).pos - (run source).copied) =
      (run source).uncopied := by
    refine List.take_of_length_le ?_
    have := congrArg List.length h.rest
    rw [hend, List.length_nil, List.length_drop] at this
    have := h.copied_le
    rw [h.uncopied, List.length_drop]
    omega
  rw [h.whole, hend, hall, resumed_of_clear clear_nil, withoutPadding_nil,
    List.append_nil, result]

end Scan

end AccessPoint.Zeros

namespace AccessPoint

open Ascii Ipv4 Zeros Zeros.Plain

/-- The bytes of a text without padding are its bytes without padding. -/
theorem utf8_trimZeros (s : String) : Text.utf8 (trimZeros s) = withoutPadding (Text.utf8 s) := by
  rw [trimZeros, trimmed]
  split
  · next hcopied =>
    -- nothing was replaced: nothing is built, and all of the source is still to be copied
    have h := Scan.accounts_run (Text.utf8 s)
    have hbuilt := h.built
    rw [hcopied, List.take_zero, withoutPadding_nil] at hbuilt
    rw [← Scan.result_run, Scan.result, hbuilt, h.uncopied, hcopied]
    rfl
  · obtain ⟨t, ht, -⟩ := exists_utf8_eq_withoutPadding s
    rw [Scan.result_run, ← ht, Text.ofUtf8?_utf8]
    rfl

/-- **Dropping the padding is rewriting each stretch by itself.** The text is cut into its maximal
stretches of digits and dots and what is between them, and each stretch that is four octets from end
to end is written canonically. Whatever stands around it, a literal is rewritten and any other
stretch stays as it is: one with another number of groups, and so with a dot at an end, and one with
a group of more than three digits or with a value above 255. -/
theorem trimZeros_by_stretches (s : String) :
    Text.utf8 (trimZeros s) = withoutPadding (Text.utf8 s) ∧
      ∀ a r b, Text.utf8 s = a ++ r ++ b → (∀ x ∈ r, isQuadByte x) →
        (∀ x ∈ a.getLast?, isQuadByte x = false) → (∀ x ∈ b.head?, isQuadByte x = false) →
          (∀ ip, IsQuad ip r → Text.utf8 (trimZeros s) =
            withoutPadding a ++ Text.utf8 ip.text ++ withoutPadding b) ∧
          ((∀ ip, ¬IsQuad ip r) → Text.utf8 (trimZeros s) =
            withoutPadding a ++ r ++ withoutPadding b) ∧
          ((r.splitOn (byte '.')).length ≠ 4 ∨
            (∃ g ∈ r.splitOn (byte '.'), g = [] ∨ 3 < g.length ∨ 255 < digitsValue g) →
              ∀ ip, ¬IsQuad ip r) := by
  refine ⟨utf8_trimZeros s, fun a r b hs hr ha hb ↦ ?_⟩
  have hcut : Text.utf8 (trimZeros s) = withoutPadding a ++ trimStretch r ++ withoutPadding b := by
    rw [utf8_trimZeros, hs, List.append_assoc, withoutPadding_append (.inl ha),
      withoutPadding_append_of_quadBytes hr hb, List.append_assoc]
  refine ⟨fun ip hip ↦ ?_, fun hno ↦ ?_, fun hbad ip hip ↦ ?_⟩
  · rw [hcut, trimStretch_of_literal? (literal?_eq_some_iff.2 hip)]
  · rw [hcut, trimStretch_of_eq_none (literal?_eq_none_iff.2 hno)]
  · exact literal?_eq_none_iff.1 (literal?_eq_none_of_splitOn hbad) ip hip

end AccessPoint

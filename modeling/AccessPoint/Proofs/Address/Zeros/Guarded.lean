import AccessPoint.Proofs.Address.Zeros.Scan
import AccessPoint.Proofs.Text.Boundary

/-!
# The scan stays within the text

The scan for padded literals goes by places in the bytes of a text: it looks at the byte in front of
a place, reads a literal there, and takes pieces of the text between places. A piece is a text only
if its ends are in order, in range, and cut no character. `guarded` is the scan with a check in
front of every byte that is read and every piece that is taken, and in front of every further step;
where a check fails, it stops with a `Fault`.

Each state of the scan is safe (`Scan.isSafe_steps`): what has been copied ends at a boundary, as it
ends behind a literal, and both ends of a literal are boundaries, since its bytes are in ASCII. So
the guarded scan takes the steps of the scan, one by one (`Places.step_eq_ok`), and no check fails
(`scan_safe_and_ends`).

The scan carries what is left of the text along with its places, so whether these are in order is
not seen in what it answers. The guarded scan has only the text and two places in it, and nothing
but its checks keeps it from reading beyond the end. The proof compares the two.

* `byteAt_eq_ok_iff` and `slice_eq_ok_iff` say when a check passes, and are all that is used of the
  checks.
* `Follows` relates a state of one scan to a state of the other: the same places, and the same bytes
  built. One step keeps it, by cases on what stands at the place; what each check asks for is a
  field of `IsSafe`.
* Whether a place within a character may be copied up to never comes up as a case. A place is looked
  at whether or not it is a boundary; only ends of literals are places up to which something is
  copied.

The scan takes as many steps as there are bytes, and stands still at the end; the guarded scan stops
when the end is reached. That the first has got there in time is `rest_steps_eq_nil`.
-/

namespace AccessPoint.Zeros

open Ascii Ipv4 Plain Text

variable {source rest : List UInt8} {before : Option UInt8} {ip : Ipv4} {n i j : Nat} {t : String}

/-! ### Checks -/

/-- What stops a guarded scan. -/
inductive Fault
  /-- There is no byte at this place. -/
  | byte (place : Nat)
  /-- There is no text between these places. -/
  | slice (start stop : Nat)
  /-- A step at this place did not move on. -/
  | stalled (place : Nat)
  deriving DecidableEq, Repr

/-- The byte at a place. -/
def byteAt (source : List UInt8) (i : Nat) : Except Fault UInt8 :=
  match source[i]? with
  | some b => .ok b
  | none => .error (.byte i)

/-- The text between two places, which must be in order, and boundaries. -/
def slice (source : List UInt8) (i j : Nat) : Except Fault String :=
  if i ≤ j ∧ IsBoundary source i ∧ IsBoundary source j then
    match ofUtf8? ((source.drop i).take (j - i)) with
    | some t => .ok t
    | none => .error (.slice i j)
  else .error (.slice i j)

/-- A byte is read where there is one. -/
theorem byteAt_eq_ok_iff {b : UInt8} : byteAt source i = .ok b ↔ source[i]? = some b := by
  cases h : source[i]? <;> simp [byteAt, h]

/-- A piece is taken if the checks pass, and only then. -/
theorem slice_eq_ok_iff :
    slice source i j = .ok t ↔ (i ≤ j ∧ IsBoundary source i ∧ IsBoundary source j) ∧
      utf8 t = (source.drop i).take (j - i) := by
  by_cases hcheck : i ≤ j ∧ IsBoundary source i ∧ IsBoundary source j
  · obtain ⟨hij, hi, hj⟩ := hcheck
    obtain ⟨u, hu⟩ := hi.exists_between hj hij
    rw [slice, if_pos ⟨hij, hi, hj⟩, ← hu, ofUtf8?_utf8, and_iff_right ⟨hij, hi, hj⟩]
    constructor
    · intro h
      rw [Except.ok.inj h]
    · intro h
      rw [utf8_injective h]
  · rw [slice, if_neg hcheck]
    exact iff_of_false nofun fun h ↦ hcheck h.1

/-- Between boundaries there is a text to take. -/
theorem exists_slice_eq_ok (hij : i ≤ j) (hi : IsBoundary source i) (hj : IsBoundary source j) :
    ∃ t, slice source i j = .ok t ∧ utf8 t = (source.drop i).take (j - i) := by
  obtain ⟨t, ht⟩ := hi.exists_between hj hij
  exact ⟨t, slice_eq_ok_iff.2 ⟨⟨hij, hi, hj⟩, ht⟩, ht⟩

/-! ### The guarded scan -/

/-- Whether a stretch of digits and dots may begin at a place. The byte in front of it is read only
if there is one. -/
def freeAt (source : List UInt8) (pos : Nat) : Except Fault Bool :=
  if pos = 0 then .ok true else (!isQuadByte ·) <$> byteAt source (pos - 1)

/-- The address at a place, unless a digit or a dot follows it. -/
def quadAt? (source : List UInt8) (pos : Nat) : Option (Ipv4 × Nat) :=
  match quad (source.drop pos) with
  | .ok (ip, n) => if source[pos + n]?.any isQuadByte then none else some (ip, n)
  | .error _ => none

/-- The literal that stands at a place. -/
def standingAt (source : List UInt8) (pos : Nat) : Except Fault (Option (Ipv4 × Nat)) := do
  if !(← freeAt source pos) then return none
  if !isDigit (← byteAt source pos) then return none
  return quadAt? source pos

/-- The state of a guarded scan: two places, and the text that stands for the source up to the first
of them. -/
structure Places where
  copied : Nat := 0
  pos : Nat := 0
  built : String := ""
  deriving DecidableEq, Repr

namespace Places

/-- One step in front of the end. -/
def step (source : List UInt8) (p : Places) : Except Fault Places := do
  match ← standingAt source p.pos with
  | none => return { p with pos := p.pos + 1 }
  | some (ip, n) =>
    if (← slice source p.pos (p.pos + n)) = ip.text then return { p with pos := p.pos + n }
    else
      let between ← slice source p.copied p.pos
      return ⟨p.pos + n, p.pos + n, p.built ++ between ++ ip.text⟩

/-- Steps up to the end of the source. -/
def finish (source : List UInt8) (p : Places) : Except Fault Places :=
  if p.pos < source.length then
    match p.step source with
    | .error fault => .error fault
    | .ok q => if p.pos < q.pos then q.finish source else .error (.stalled p.pos)
  else .ok p
termination_by source.length - p.pos

end Places

/-- The text without padding, by the guarded scan. -/
def guarded (s : String) : Except Fault Trimmed := do
  let p ← Places.finish (utf8 s) {}
  if p.copied = 0 then return ⟨s, false⟩
  let tail ← slice (utf8 s) p.copied (utf8 s).length
  return ⟨p.built ++ tail, true⟩

/-! ### Safe states -/

/-- A literal stands between boundaries. -/
theorem isBoundary_of_standing? (hrest : rest = (utf8 t).drop i)
    (h : standing? before rest = some (ip, n)) :
    IsBoundary (utf8 t) i ∧ IsBoundary (utf8 t) (i + n) := by
  obtain ⟨hpos, hlen⟩ := length_of_standing? h
  obtain ⟨-, r, s, hrs, rfl, hquad, -⟩ := standing?_eq_some_iff.1 h
  have hascii : ∀ b ∈ r, b < 0x80 := fun b hb ↦ lt_of_isQuadByte (isQuadByte_of_isQuad hquad hb)
  have hfirst : IsBoundary (utf8 t) i := by
    obtain ⟨b, r', rfl⟩ := List.exists_cons_of_length_pos hpos
    refine isBoundary_of_mem_head?_drop (b := b) ?_ (hascii b List.mem_cons_self)
    rw [← hrest, hrs]
    rfl
  refine ⟨hfirst, hfirst.add ?_⟩
  obtain ⟨u, hu⟩ := hfirst.after
  rw [← hrest] at hu ⊢
  rw [← hu] at hrs hlen ⊢
  refine isBoundary_of_forall_mem_take hlen fun b hb ↦ hascii b ?_
  rwa [hrs, List.take_left] at hb

namespace Scan

variable {σ : Scan}

/-- The places of the state are in order and in range, a step moves on, and the byte in front is
read only if there is one. Wherever text is taken, it is taken between boundaries: up to `copied`
and from there on, and, if a literal stands, up to it and up to its end. What is built is the text
up to `copied` without padding. -/
structure IsSafe (source : List UInt8) (σ : Scan) : Prop where
  copied_le : σ.copied ≤ σ.pos
  pos_le : σ.pos ≤ source.length
  lt_step : σ.pos < source.length → σ.pos < σ.step.pos
  before : σ.before = if σ.pos = 0 then none else source[σ.pos - 1]?
  copied : IsBoundary source σ.copied
  literal : ∀ ip n, standing? σ.before σ.rest = some (ip, n) →
    IsBoundary source σ.pos ∧ IsBoundary source (σ.pos + n)
  built : ∃ u, utf8 u = source.take σ.copied ∧ σ.built.toList = utf8 (trimZeros u)

/-- Nothing is copied but what ends behind a literal. -/
theorem isBoundary_copied_step (hσ : Accounts (utf8 t) σ) (h : IsBoundary (utf8 t) σ.copied) :
    IsBoundary (utf8 t) σ.step.copied := by
  rw [step]
  split
  · exact h
  split
  · exact h
  next ip n hstands =>
  dsimp only
  split
  · exact h
  · exact (isBoundary_of_standing? hσ.rest hstands).2

/-- What is copied ends at a boundary after any number of steps. -/
theorem isBoundary_copied_steps (hσ : Accounts (utf8 t) σ) (h : IsBoundary (utf8 t) σ.copied)
    (k : Nat) : IsBoundary (utf8 t) (steps k σ).copied := by
  induction k generalizing σ with
  | zero => exact h
  | succ k ih => exact ih hσ.step (isBoundary_copied_step hσ h)

/-- The place of a state tells how much is left. -/
theorem Accounts.length_rest (hσ : Accounts source σ) :
    σ.rest.length = source.length - σ.pos := by
  rw [hσ.rest, List.length_drop]

theorem Accounts.rest_eq_nil_iff (hσ : Accounts source σ) :
    σ.rest = [] ↔ source.length ≤ σ.pos := by
  rw [hσ.rest, List.drop_eq_nil_iff]

/-- In front of the end, a step moves the place on. -/
theorem Accounts.pos_lt_pos_step (hσ : Accounts source σ) (h : σ.pos < source.length) :
    σ.pos < σ.step.pos := by
  have hlt := length_rest_step_lt (mt hσ.rest_eq_nil_iff.1 (Nat.not_le.2 h))
  rw [hσ.length_rest, hσ.step.length_rest] at hlt
  omega

/-- A state that accounts for a text, and has copied up to a boundary, is safe. -/
theorem Accounts.isSafe (hσ : Accounts (utf8 t) σ) (h : IsBoundary (utf8 t) σ.copied) :
    IsSafe (utf8 t) σ where
  copied_le := hσ.copied_le
  pos_le := hσ.pos_le
  lt_step := hσ.pos_lt_pos_step
  before := by
    rw [hσ.before, List.getLast?_take]
    split
    · rfl
    next hne =>
    have hlt : σ.pos - 1 < (utf8 t).length := by
      have := hσ.pos_le
      omega
    rw [List.getElem?_eq_getElem hlt, Option.some_or]
  copied := h
  literal _ _ hstands := isBoundary_of_standing? hσ.rest hstands
  built := by
    obtain ⟨u, hu⟩ := h.before
    exact ⟨u, hu, by rw [hσ.built, ← hu, utf8_trimZeros]⟩

/-- **Every state of the scan of a text is safe.** -/
theorem isSafe_steps (s : String) (k : Nat) : IsSafe (utf8 s) (steps k (start (utf8 s))) :=
  ((accounts_start _).steps k).isSafe
    (isBoundary_copied_steps (accounts_start _) (isBoundary_zero s) k)

end Scan

/-! ### No check fails -/

/-- A literal begins with a digit. -/
theorem isDigit_of_standing? {b : UInt8} (h : standing? before (b :: rest) = some (ip, n)) :
    isDigit b := by
  obtain ⟨-, r, s, hrs, -, ⟨a, b', c, d, rfl, ha, -⟩, -⟩ := standing?_eq_some_iff.1 h
  obtain ⟨x, xs, rfl⟩ := List.exists_cons_of_ne_nil ha.ne_nil
  obtain rfl : b = x := (List.cons.inj hrs).1
  exact ha.digits b List.mem_cons_self

/-- The byte in front of a place is read as the scan knows it. -/
theorem freeAt_eq_ok (hbefore : before = if i = 0 then none else source[i - 1]?)
    (hi : i < source.length) : freeAt source i = .ok (!before.any isQuadByte) := by
  rw [hbefore, freeAt]
  rcases i with - | i
  · rfl
  · have hget : source[i]? = some source[i] := List.getElem?_eq_getElem (Nat.lt_of_succ_lt hi)
    show (!isQuadByte ·) <$> byteAt source i = .ok (!(source[i]?).any isQuadByte)
    rw [byteAt_eq_ok_iff.2 hget, hget]
    rfl

/-- Where a stretch may begin, a literal stands if an address is read whole. -/
theorem standing?_eq_quadAt? (h : before.any isQuadByte = false) :
    standing? before (source.drop i) = quadAt? source i := by
  rw [standing?, if_neg (by rw [h]; exact Bool.false_ne_true), quadAt?]
  cases quad (source.drop i) with
  | ok x =>
    obtain ⟨ip, n⟩ := x
    show (if (source.drop i)[n]?.any isQuadByte then none else some (ip, n)) =
      if source[i + n]?.any isQuadByte then none else some (ip, n)
    rw [List.getElem?_drop]
  | error f => rfl

/-- Where a byte is left, the checks for a literal pass, and the answer is that of the scan. -/
theorem standingAt_eq_ok (hbefore : before = if i = 0 then none else source[i - 1]?)
    (hi : i < source.length) : standingAt source i = .ok (standing? before (source.drop i)) := by
  have hbyte : byteAt source i = .ok source[i] := byteAt_eq_ok_iff.2 (List.getElem?_eq_getElem hi)
  rw [standingAt, freeAt_eq_ok hbefore hi, hbyte]
  show (if !(!before.any isQuadByte) then Except.ok none
    else if !isDigit source[i] then .ok none else .ok (quadAt? source i)) = _
  cases hfree : before.any isQuadByte with
  | true =>
    rw [standing?, if_pos hfree]
    rfl
  | false =>
    cases hdigit : isDigit source[i] with
    | true => rw [standing?_eq_quadAt? hfree]; rfl
    | false =>
      -- no literal begins with this byte
      have hnone : standing? before (source.drop i) = none := by
        rw [List.drop_eq_getElem_cons hi]
        refine Option.eq_none_iff_forall_ne_some.2 fun x hx ↦ ?_
        rw [isDigit_of_standing? hx] at hdigit
        cases hdigit
      rw [hnone]
      rfl

namespace Places

open Scan

variable {σ : Scan} {p : Places} {k : Nat}

/-- The guarded scan is where the scan is, and has built the same. -/
structure Follows (p : Places) (σ : Scan) : Prop where
  copied : p.copied = σ.copied
  pos : p.pos = σ.pos
  built : utf8 p.built = σ.built.toList

/-- In front of the end, the guarded scan takes the step of the scan. -/
theorem step_eq_ok (hσ : Accounts source σ) (hsafe : IsSafe source σ) (hp : Follows p σ)
    (hlt : σ.pos < source.length) : ∃ q, p.step source = .ok q ∧ Follows q σ.step := by
  have hne : ¬σ.rest.isEmpty := by
    rw [List.isEmpty_iff, hσ.rest_eq_nil_iff]
    exact Nat.not_le.2 hlt
  have hstanding : standingAt source p.pos = .ok (standing? σ.before σ.rest) := by
    rw [hp.pos, hσ.rest]
    exact standingAt_eq_ok hsafe.before hlt
  rw [step, hstanding, Scan.step, if_neg hne]
  cases hstands : standing? σ.before σ.rest with
  | none => exact ⟨_, rfl, hp.copied, congrArg (· + 1) hp.pos, hp.built⟩
  | some x =>
    obtain ⟨ip, n⟩ := x
    obtain ⟨hpos, hend⟩ := hsafe.literal ip n hstands
    -- both pieces are taken between boundaries
    obtain ⟨literal, hliteral, htext⟩ := exists_slice_eq_ok (Nat.le_add_right _ n) hpos hend
    obtain ⟨between, hbetween, hpending⟩ := exists_slice_eq_ok hsafe.copied_le hsafe.copied hpos
    rw [← hp.pos] at hliteral
    rw [← hp.pos, ← hp.copied] at hbetween
    rw [Nat.add_sub_cancel_left, ← hσ.rest] at htext
    rw [← hσ.uncopied] at hpending
    show ∃ q, (slice source p.pos (p.pos + n) >>= fun literal ↦
      if literal = ip.text then .ok { p with pos := p.pos + n }
      else slice source p.copied p.pos >>= fun between ↦
        .ok ⟨p.pos + n, p.pos + n, p.built ++ between ++ ip.text⟩) = .ok q ∧ _
    rw [hliteral, hbetween]
    show ∃ q, (if literal = ip.text then Except.ok { p with pos := p.pos + n }
      else .ok ⟨p.pos + n, p.pos + n, p.built ++ between ++ ip.text⟩) = .ok q ∧
        Follows q (if σ.rest.take n = utf8 ip.text then σ.skip n else _)
    by_cases hcanonical : literal = ip.text
    · rw [if_pos hcanonical, if_pos (by rw [← htext, hcanonical])]
      exact ⟨_, rfl, hp.copied, congrArg (· + n) hp.pos, hp.built⟩
    · rw [if_neg hcanonical, if_neg fun h ↦ hcanonical (utf8_injective (htext.trans h))]
      refine ⟨_, rfl, congrArg (· + n) hp.pos, congrArg (· + n) hp.pos, ?_⟩
      show utf8 (p.built ++ between ++ ip.text) =
        (σ.built ++ σ.uncopied.take (σ.pos - σ.copied) ++ utf8 ip.text).toList
      rw [utf8_append, utf8_append, hp.built, hpending]
      simp

/-- Steps that lead to the end are those of the guarded scan. -/
theorem finish_eq_ok (hσ : Accounts (utf8 t) σ) (hcopied : IsBoundary (utf8 t) σ.copied)
    (hp : Follows p σ) (hk : (utf8 t).length ≤ σ.pos + k) :
    ∃ q, p.finish (utf8 t) = .ok q ∧ Follows q (steps k σ) := by
  induction k generalizing σ p with
  | zero =>
    refine ⟨p, ?_, hp⟩
    rw [finish, if_neg]
    rw [hp.pos]
    omega
  | succ k ih =>
    by_cases hlt : σ.pos < (utf8 t).length
    · have hmoves := hσ.pos_lt_pos_step hlt
      obtain ⟨q, hq, hfollows⟩ := step_eq_ok hσ (hσ.isSafe hcopied) hp hlt
      obtain ⟨r, hr, hlast⟩ := ih hσ.step (isBoundary_copied_step hσ hcopied) hfollows (by omega)
      refine ⟨r, ?_, hlast⟩
      rw [finish, if_pos (by rwa [hp.pos]), hq]
      show (if p.pos < q.pos then q.finish (utf8 t) else _) = _
      rw [if_pos (by rwa [hp.pos, hfollows.pos]), hr]
    · -- at the end nothing changes
      have hstep : σ.step = σ := by
        rw [Scan.step, if_pos]
        rw [List.isEmpty_iff, hσ.rest_eq_nil_iff]
        exact Nat.le_of_not_lt hlt
      rw [steps, hstep]
      exact ih hσ hcopied hp (by omega)

end Places

/-- The guarded scan answers what the scan answers. -/
theorem guarded_eq_ok (s : String) : guarded s = .ok (trimmed s) := by
  have hσ := Scan.accounts_run (utf8 s)
  have hcopied := (Scan.isSafe_steps s (utf8 s).length).copied
  obtain ⟨p, hrun, hp⟩ := Places.finish_eq_ok (p := {}) (k := (utf8 s).length)
    (Scan.accounts_start (utf8 s)) (isBoundary_zero s) ⟨rfl, rfl, rfl⟩ (Nat.le_add_left _ _)
  obtain ⟨tail, htail, hrest⟩ := exists_slice_eq_ok hcopied.le_length hcopied (isBoundary_length s)
  rw [← List.length_drop, List.take_length] at hrest
  rw [← hp.copied] at htail
  -- the text built, with the tail behind it, is the result of the scan
  have hresult : ofUtf8? (Scan.run (utf8 s)).result = some (p.built ++ tail) := by
    rw [Scan.result, hσ.uncopied, ← ofUtf8?_utf8 (p.built ++ tail), utf8_append, hp.built, hrest]
    rfl
  rw [guarded, hrun]
  show (if p.copied = 0 then .ok ⟨s, false⟩
    else slice (utf8 s) p.copied (utf8 s).length >>= fun tail ↦ .ok ⟨p.built ++ tail, true⟩ :
      Except Fault Trimmed) = .ok (if (Scan.run (utf8 s)).copied = 0 then ⟨s, false⟩
        else ⟨(ofUtf8? (Scan.run (utf8 s)).result).getD s, true⟩)
  rw [htail, hresult, hp.copied]
  show (if (Scan.run (utf8 s)).copied = 0 then _ else _) = _
  split
  · rfl
  · rfl

/-- **The scan stays within the text, and ends.** Whatever the text, every state is safe: its places
are in order, in range and move on, the byte in front is read only if there is one, each piece of
text is taken between boundaries, and what is built is the text up to `copied` without padding. At
last all of the text is scanned. So the guarded scan, which stops where a byte is missing, a piece
is no text or a step does not move on, never stops, and answers what the scan answers. -/
theorem scan_safe_and_ends (s : String) :
    (∀ k, Scan.IsSafe (utf8 s) (Scan.steps k (Scan.start (utf8 s)))) ∧
      (Scan.run (utf8 s)).pos = (utf8 s).length ∧ guarded s = .ok (trimmed s) := by
  refine ⟨Scan.isSafe_steps s, ?_, guarded_eq_ok s⟩
  have hσ := Scan.accounts_run (utf8 s)
  have hend : (Scan.run (utf8 s)).rest = [] := Scan.rest_steps_eq_nil (Nat.le_refl _)
  exact Nat.le_antisymm hσ.pos_le (hσ.rest_eq_nil_iff.1 hend)

end AccessPoint.Zeros

import AccessPoint.Proofs.Uri.Components

/-!
# Runs in rounds

A run may be taken in rounds: an escape, or else as many bytes of the class as there are, and again,
as long as something matches. A round that matches without taking a byte could be repeated for ever,
so repetition refuses it (`Halt.stalled`). It never comes to that: the recognisers that are repeated
take a byte whenever they match (`Progresses`), and their rounds end where the run ends
(`rounds_piece`, `rounds1_piece`). The absolute path behind a first segment may be repeated as well,
and is found only once (`rounds_absPath`).

`rounds` is therefore a second definition of what `run` computes in one recursion, with an outcome
that `run` does not have. It stops at a round that leaves as many bytes as there were, and its
recursion is founded on that very test; so nothing about the pieces has to be known for the
definition to be accepted, and that the test never fires is proved and not assumed.

* **One round.** `piece_eq_ok_iff` and `piece_eq_error_iff` say what a round takes and when there is
  none. That a round takes something is read off the first (`progresses_piece`).
* **All rounds.** `runLength_of_piece` is the step: behind each round, the run goes on as if it had
  begun there. The proof of `rounds_piece` is a recursion on the bytes that are left, with this step
  and `Progresses` for its descent.

The percent sign must not be in the class. A round tries an escape first, where a run would take the
sign for one byte of the class.
-/

namespace AccessPoint

open Ascii

namespace Recogniser

variable {p : Recogniser} {s : List UInt8} {n m : Nat} {f : Failure}

/-- Why a repetition answers nothing. -/
inductive Halt
  /-- The first round failed where one is required. -/
  | failed (f : Failure)
  /-- A round at this offset matched without taking a byte. -/
  | stalled (offset : Nat)
  deriving DecidableEq, Repr

/-- The reason as seen from `n` bytes earlier. -/
def Halt.shift (n : Nat) : Halt → Halt
  | failed f => failed (f.shift n)
  | stalled offset => stalled (n + offset)

/-- Rounds of `p` as long as it matches, possibly none. -/
def rounds (p : Recogniser) (s : List UInt8) : Except Halt Nat :=
  match p s with
  | .error _ => .ok 0
  | .ok n =>
    if _h : (s.drop n).length < s.length then
      match rounds p (s.drop n) with
      | .ok m => .ok (n + m)
      | .error halt => .error (halt.shift n)
    else .error (.stalled 0)
termination_by s.length
decreasing_by assumption

/-- Rounds of `p` as long as it matches, at least one. -/
def rounds1 (p : Recogniser) (s : List UInt8) : Except Halt Nat :=
  match p s with
  | .error f => .error (.failed f)
  | .ok n =>
    match rounds p (s.drop n) with
    | .ok m => .ok (n + m)
    | .error halt => .error (halt.shift n)

/-- Whenever the recogniser matches, fewer bytes are left. -/
def Progresses (p : Recogniser) : Prop :=
  ∀ ⦃s n⦄, p s = .ok n → (s.drop n).length < s.length

theorem rounds_of_error (h : p s = .error f) : rounds p s = .ok 0 := by
  rw [rounds, h]

/-- Behind a round that matches come the rounds of what is left. -/
theorem rounds_of_ok (hp : Progresses p) (h : p s = .ok n)
    (hrest : rounds p (s.drop n) = .ok m) : rounds p s = .ok (n + m) := by
  rw [rounds, h]
  simp only [dif_pos (hp h), hrest]

/-- A recogniser of non-empty prefixes makes progress. -/
theorem progresses_of_pos (hpos : ∀ {s n}, p s = .ok n → 0 < n)
    (hle : ∀ {s n}, p s = .ok n → n ≤ s.length) : Progresses p := by
  intro s n h
  have := hpos h
  have := hle h
  rw [List.length_drop]
  omega

end Recogniser

namespace Uri

open Recogniser

variable {p : UInt8 → Bool} {s : List UInt8} {n : Nat} {f : Failure}

/-! ### The piece of a round -/

/-- A percent sign and two hexadecimal digits. -/
def escape : Recogniser := (mark '%').andThen ((single isHex).andThen (single isHex))

/-- An escape, or else as many bytes of the class as there are, at least one. -/
def piece (p : UInt8 → Bool) : Recogniser := escape.orElse (many1 p)

/-- An escape stands at the head of the bytes. -/
def BeginsEscape (s : List UInt8) : Prop :=
  ∃ h l r, s = byte '%' :: h :: l :: r ∧ isHex h ∧ isHex l

/-- A byte of the class or an escape stands at the head of the bytes. -/
def BeginsRun (p : UInt8 → Bool) (s : List UInt8) : Prop := (∃ b ∈ s.head?, p b) ∨ BeginsEscape s

/-- An escape has three bytes. -/
theorem escape_eq_ok_iff : escape s = .ok n ↔ BeginsEscape s ∧ n = 3 := by
  simp only [escape, andThen_eq_ok_iff, mark, literal_eq_ok_iff, single_eq_ok_iff]
  constructor
  · intro hw
    obtain ⟨_, _, ⟨⟨r, rfl⟩, rfl⟩, ⟨_, _, ⟨⟨h, hh, hhex⟩, rfl⟩, ⟨⟨l, hl, hlex⟩, rfl⟩, rfl⟩, rfl⟩ :=
      hw
    obtain ⟨r, rfl⟩ := List.head?_eq_some_iff.1 hh
    obtain ⟨r, rfl⟩ := List.head?_eq_some_iff.1 hl
    exact ⟨⟨h, l, r, rfl, hhex, hlex⟩, rfl⟩
  · intro hw
    obtain ⟨⟨h, l, r, rfl, hhex, hlex⟩, rfl⟩ := hw
    exact ⟨1, 2, ⟨⟨_, rfl⟩, rfl⟩, ⟨1, 1, ⟨⟨h, rfl, hhex⟩, rfl⟩, ⟨⟨l, rfl, hlex⟩, rfl⟩, rfl⟩, rfl⟩

/-- An escape is missed where none begins, whatever the cause. -/
theorem exists_escape_eq_error_iff : (∃ g, escape s = .error g) ↔ ¬BeginsEscape s := by
  cases h : escape s with
  | ok n => simp [(escape_eq_ok_iff.1 h).1]
  | error g =>
    refine iff_of_true ⟨g, rfl⟩ fun hs ↦ ?_
    rw [escape_eq_ok_iff.2 ⟨hs, rfl⟩] at h
    cases h

theorem takeWhile_eq_nil_iff_head? : s.takeWhile p = [] ↔ ¬∃ b ∈ s.head?, p b := by
  cases s with
  | nil => simp
  | cons b s => cases h : p b <;> simp [h]

theorem piece_eq_error_iff : piece p s = .error f ↔ ¬BeginsRun p s ∧ f = ⟨.run, 0⟩ := by
  rw [piece, orElse_eq_error_iff, exists_escape_eq_error_iff, many1_eq_error_iff,
    takeWhile_eq_nil_iff_head?, BeginsRun, not_or, ← and_assoc, and_comm (a := ¬BeginsEscape s)]

/-- What a round takes is an escape, or all bytes of the class there are. -/
theorem piece_eq_ok_iff :
    piece p s = .ok n ↔ BeginsEscape s ∧ n = 3 ∨
      ¬BeginsEscape s ∧ s.takeWhile p ≠ [] ∧ n = (s.takeWhile p).length := by
  rw [piece, orElse_eq_ok_iff, escape_eq_ok_iff, exists_escape_eq_error_iff, many1_eq_ok_iff]

/-- **No round stalls.** A round takes three bytes or at least one. -/
theorem progresses_piece : Progresses (piece p) := by
  refine progresses_of_pos (fun h ↦ ?_) fun h ↦ ?_
  · rcases piece_eq_ok_iff.1 h with ⟨-, rfl⟩ | ⟨-, hne, rfl⟩
    · exact Nat.succ_pos 2
    · exact List.length_pos_iff.2 hne
  · rcases piece_eq_ok_iff.1 h with ⟨⟨h, l, r, rfl, -⟩, rfl⟩ | ⟨-, -, rfl⟩
    · simp
    · exact (List.takeWhile_prefix p).length_le

/-! ### Runs -/

/-- A run is empty where none begins. -/
theorem runLength_eq_zero_iff : runLength p s = 0 ↔ ¬BeginsRun p s := by
  rcases s with _ | ⟨b, _ | ⟨h, _ | ⟨l, s⟩⟩⟩
  · simp [runLength, BeginsRun, BeginsEscape]
  · simp [runLength, BeginsRun, BeginsEscape]
  · simp [runLength, BeginsRun, BeginsEscape]
  · simp only [runLength, BeginsRun, BeginsEscape, List.head?_cons, Option.mem_some_iff,
      exists_eq_left', List.cons.injEq]
    grind

/-- The bytes of the class at the head of a run are part of it. -/
theorem runLength_eq_takeWhile_add (p : UInt8 → Bool) (s : List UInt8) :
    runLength p s = (s.takeWhile p).length + runLength p (s.drop (s.takeWhile p).length) := by
  induction s with
  | nil => rfl
  | cons b s ih =>
    by_cases hb : p b
    · rw [runLength_byte hb, List.takeWhile_cons_of_pos hb, List.length_cons, List.drop_succ_cons]
      omega
    · rw [List.takeWhile_cons_of_neg hb, List.length_nil, Nat.zero_add, List.drop_zero]

/-- A run goes on behind each of its rounds. -/
theorem runLength_of_piece (hp : p (byte '%') = false) (h : piece p s = .ok n) :
    runLength p s = n + runLength p (s.drop n) := by
  rcases piece_eq_ok_iff.1 h with ⟨⟨h, l, r, rfl, hh, hl⟩, rfl⟩ | ⟨-, -, rfl⟩
  · rw [runLength, hp, if_neg Bool.false_ne_true, if_pos ⟨rfl, hh, hl⟩, Nat.add_comm]
    rfl
  · exact runLength_eq_takeWhile_add p s

/-- The rounds of a run end where it ends. -/
theorem rounds_piece (hp : p (byte '%') = false) (s : List UInt8) :
    rounds (piece p) s = .ok (runLength p s) := by
  cases h : piece p s with
  | error f =>
    rw [rounds_of_error h, runLength_eq_zero_iff.2 (piece_eq_error_iff.1 h).1]
  | ok n =>
    have hlt := progresses_piece h
    rw [rounds_of_ok progresses_piece h (rounds_piece hp (s.drop n)), runLength_of_piece hp h]
termination_by s.length
decreasing_by exact hlt

/-- The same for rounds of which one is required: the first one fails where the run would be empty.
-/
theorem rounds1_piece (hp : p (byte '%') = false) (s : List UInt8) :
    rounds1 (piece p) s = (run1 p s).mapError .failed := by
  cases h : piece p s with
  | error f =>
    obtain ⟨hno, rfl⟩ := piece_eq_error_iff.1 h
    rw [rounds1, h, run1, if_pos (runLength_eq_zero_iff.2 hno)]
    rfl
  | ok n =>
    have hne : runLength p s ≠ 0 := by
      rw [Ne, runLength_eq_zero_iff, not_not]
      by_contra hno
      rw [piece_eq_error_iff.2 ⟨hno, rfl⟩] at h
      cases h
    rw [rounds1, h, run1, if_neg hne, runLength_of_piece hp h]
    simp only [rounds_piece hp]
    rfl

/-! ### Absolute paths -/

theorem singleton_prefix_iff {b : UInt8} : [b] <+: s ↔ s.head? = some b := by
  cases s with
  | nil => simp
  | cons c s => simp [List.cons_prefix_cons, eq_comm]

theorem absPath_eq_error_iff :
    absPath s = .error f ↔ s.head? ≠ some (byte '/') ∧ f = ⟨.literal, 0⟩ := by
  rw [absPath, andThen_eq_error_iff_left run_ne_error, mark, literal_eq_error_iff,
    singleton_prefix_iff]

/-- A second absolute path never follows the first. -/
theorem rounds_absPath (s : List UInt8) :
    rounds absPath s = (absPath.optional s).mapError .failed := by
  have hprogress : Progresses absPath := by
    refine progresses_of_pos (fun h ↦ ?_) isLongest_absPath.le_length
    obtain ⟨n, k, hn, -, rfl⟩ := andThen_eq_ok_iff.1 h
    obtain ⟨-, rfl⟩ := literal_eq_ok_iff.1 hn
    exact Nat.add_pos_left Nat.one_pos k
  cases h : absPath s with
  | error f =>
    rw [rounds_of_error h, Recogniser.optional, h]
    rfl
  | ok n =>
    have hnone : absPath (s.drop n) = .error ⟨.literal, 0⟩ := by
      obtain ⟨m, k, hm, hk, rfl⟩ := andThen_eq_ok_iff.1 h
      obtain rfl := Except.ok.inj hk
      refine absPath_eq_error_iff.2 ⟨fun hslash ↦ ?_, rfl⟩
      rw [← List.drop_drop] at hslash
      exact absurd (eq_false_of_mem_head?_drop_runLength hslash) (by decide)
    rw [rounds_of_ok hprogress h (rounds_of_error hnone), Recogniser.optional, h]
    rfl

end Uri

end AccessPoint

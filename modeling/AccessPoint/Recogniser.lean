/-!
# Recognisers

A recogniser takes a list of bytes and answers the length of the prefix it matches, or a `Failure`:
the cause, and the offset of the byte at which it was found. The combinators below are ordered and
greedy: an alternative that matches is never reconsidered, and a run is taken as far as it goes.
-/

namespace AccessPoint

/-- What was missing or out of place. -/
inductive Failure.Cause
  /-- A fixed text was required. -/
  | literal
  /-- At least one byte of a class was required. -/
  | run
  /-- A given number of bytes of a class was required. -/
  | count
  /-- The bytes have the right form and denote no value. -/
  | value
  /-- A text stands where it must not. -/
  | excluded
  /-- Two slashes and nothing after them. -/
  | bare
  deriving DecidableEq, Repr

/-- A cause and the offset at which it was found. -/
structure Failure where
  cause : Failure.Cause
  offset : Nat
  deriving DecidableEq, Repr

/-- The failure as seen from `n` bytes earlier. -/
def Failure.shift (n : Nat) (f : Failure) : Failure := ⟨f.cause, n + f.offset⟩

/-- A recogniser: the length of the matched prefix, or why there is none. -/
abbrev Recogniser := List UInt8 → Except Failure Nat

namespace Recogniser

/-! ### Single components -/

/-- The fixed text `t`. -/
def literal (t : List UInt8) : Recogniser := fun s ↦
  if t.isPrefixOf s then .ok t.length else .error ⟨.literal, 0⟩

/-- As many bytes of the class `p` as there are, possibly none. -/
def many (p : UInt8 → Bool) : Recogniser := fun s ↦ .ok (s.takeWhile p).length

/-- As many bytes of the class `p` as there are, at least one. -/
def many1 (p : UInt8 → Bool) : Recogniser := fun s ↦
  if (s.takeWhile p).isEmpty then .error ⟨.run, 0⟩ else .ok (s.takeWhile p).length

/-- A single byte of the class `p`. -/
def single (p : UInt8 → Bool) : Recogniser := fun s ↦
  if s.head?.any p then .ok 1 else .error ⟨.count, 0⟩

/-! ### Combinators -/

/-- The recogniser applied after `n` bytes: lengths and offsets count from the start. -/
def after (n : Nat) (p : Recogniser) : Recogniser := fun s ↦
  match p (s.drop n) with
  | .ok m => .ok (n + m)
  | .error f => .error (f.shift n)

/-- One component and then another. -/
def andThen (p q : Recogniser) : Recogniser := fun s ↦
  match p s with
  | .ok n => q.after n s
  | .error f => .error f

/-- The first alternative, or else the second, whose failure counts. -/
def orElse (p q : Recogniser) : Recogniser := fun s ↦
  match p s with
  | .ok n => .ok n
  | .error _ => q s

/-- A component that may be absent. -/
def optional (p : Recogniser) : Recogniser := fun s ↦
  match p s with
  | .ok n => .ok n
  | .error _ => .ok 0

/-- A component that must not begin with the text `t`. -/
def barring (t : List UInt8) (p : Recogniser) : Recogniser := fun s ↦
  if t.isPrefixOf s then .error ⟨.excluded, 0⟩ else p s

/-- A component whose matched bytes must denote a value. -/
def denoting (value : List UInt8 → Bool) (p : Recogniser) : Recogniser := fun s ↦
  match p s with
  | .ok n => if value (s.take n) then .ok n else .error ⟨.value, 0⟩
  | .error f => .error f

/-- Whether all of the bytes are matched. -/
def matchesAll (p : Recogniser) (s : List UInt8) : Bool :=
  match p s with
  | .ok n => n == s.length
  | .error _ => false

/-! ### When a component matches and when it fails -/

variable {p q : Recogniser} {s t : List UInt8} {n m : Nat} {f : Failure}

theorem literal_eq_ok_iff : literal t s = .ok n ↔ t <+: s ∧ n = t.length := by
  by_cases h : t <+: s <;> simp [literal, h, eq_comm (a := n)]

theorem literal_eq_error_iff : literal t s = .error f ↔ ¬t <+: s ∧ f = ⟨.literal, 0⟩ := by
  by_cases h : t <+: s <;> simp [literal, h, eq_comm (a := f)]

theorem many_ne_error {c : UInt8 → Bool} : many c s ≠ .error f := nofun

theorem many1_eq_ok_iff {c : UInt8 → Bool} :
    many1 c s = .ok n ↔ s.takeWhile c ≠ [] ∧ n = (s.takeWhile c).length := by
  by_cases h : s.takeWhile c = [] <;> simp [many1, h, eq_comm (a := n)]

theorem many1_eq_error_iff {c : UInt8 → Bool} :
    many1 c s = .error f ↔ s.takeWhile c = [] ∧ f = ⟨.run, 0⟩ := by
  by_cases h : s.takeWhile c = [] <;> simp [many1, h, eq_comm (a := f)]

theorem single_eq_ok_iff {c : UInt8 → Bool} :
    single c s = .ok n ↔ (∃ b ∈ s.head?, c b) ∧ n = 1 := by
  cases s with
  | nil => simp [single]
  | cons b s => cases h : c b <;> simp [single, h, eq_comm (a := n)]

theorem single_eq_error_iff {c : UInt8 → Bool} :
    single c s = .error f ↔ (¬∃ b ∈ s.head?, c b) ∧ f = ⟨.count, 0⟩ := by
  cases s with
  | nil => simp [single, eq_comm (a := f)]
  | cons b s => cases h : c b <;> simp [single, h, eq_comm (a := f)]

theorem after_eq_ok_iff : p.after n s = .ok m ↔ ∃ k, p (s.drop n) = .ok k ∧ m = n + k := by
  cases h : p (s.drop n) <;> simp [after, h, eq_comm (a := m)]

theorem after_eq_error_iff :
    p.after n s = .error f ↔ ∃ g, p (s.drop n) = .error g ∧ f = g.shift n := by
  cases h : p (s.drop n) <;> simp [after, h, eq_comm (a := f)]

theorem andThen_eq_ok_iff :
    p.andThen q s = .ok m ↔ ∃ n k, p s = .ok n ∧ q (s.drop n) = .ok k ∧ m = n + k := by
  cases h : p s <;> simp [andThen, h, after_eq_ok_iff]

theorem andThen_eq_error_iff :
    p.andThen q s = .error f ↔
      p s = .error f ∨ ∃ n g, p s = .ok n ∧ q (s.drop n) = .error g ∧ f = g.shift n := by
  cases h : p s <;> simp [andThen, h, after_eq_error_iff]

/-- In front of a component that never fails, only the first one counts. -/
theorem andThen_eq_error_iff_left (hq : ∀ {t g}, q t ≠ .error g) :
    p.andThen q s = .error f ↔ p s = .error f := by
  rw [andThen_eq_error_iff, or_iff_left_iff_imp]
  intro h
  obtain ⟨n, g, -, hg, -⟩ := h
  exact absurd hg hq

theorem orElse_eq_ok_iff :
    p.orElse q s = .ok n ↔ p s = .ok n ∨ (∃ g, p s = .error g) ∧ q s = .ok n := by
  cases h : p s <;> simp [orElse, h]

theorem orElse_eq_error_iff :
    p.orElse q s = .error f ↔ (∃ g, p s = .error g) ∧ q s = .error f := by
  cases h : p s <;> simp [orElse, h]

theorem optional_eq_ok_iff :
    p.optional s = .ok n ↔ p s = .ok n ∨ (∃ g, p s = .error g) ∧ n = 0 := by
  cases h : p s <;> simp [optional, h, eq_comm (a := n)]

theorem optional_ne_error : p.optional s ≠ .error f := by
  cases h : p s <;> simp [optional, h]

theorem barring_eq_ok_iff : p.barring t s = .ok n ↔ ¬t <+: s ∧ p s = .ok n := by
  by_cases h : t <+: s <;> simp [barring, h]

theorem barring_eq_error_iff :
    p.barring t s = .error f ↔
      t <+: s ∧ f = ⟨.excluded, 0⟩ ∨ ¬t <+: s ∧ p s = .error f := by
  by_cases h : t <+: s <;> simp [barring, h, eq_comm (a := f)]

theorem denoting_eq_ok_iff {value : List UInt8 → Bool} :
    p.denoting value s = .ok n ↔ p s = .ok n ∧ value (s.take n) := by
  cases h : p s with
  | error g => simp [denoting, h]
  | ok k =>
    cases hv : value (s.take k) <;> simp only [denoting, h, hv] <;> grind

theorem denoting_eq_error_iff {value : List UInt8 → Bool} :
    p.denoting value s = .error f ↔
      p s = .error f ∨ ∃ n, p s = .ok n ∧ ¬value (s.take n) ∧ f = ⟨.value, 0⟩ := by
  cases h : p s with
  | error g => simp [denoting, h]
  | ok k => cases hv : value (s.take k) <;> simp [denoting, h, hv, eq_comm (a := f)]

theorem matchesAll_iff : p.matchesAll s ↔ p s = .ok s.length := by
  cases h : p s <;> simp [matchesAll, h]

end Recogniser

end AccessPoint

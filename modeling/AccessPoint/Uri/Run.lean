import AccessPoint.Recogniser
import AccessPoint.Uri.Byte

/-!
# Runs of bytes and escapes

Nearly every component of a URI reference is a run: bytes of one class, with escapes (`%` and two
hexadecimal digits) in between. `IsRun` says what a run is; `runLength` takes one as far as it goes,
which is as far as any run at that place reaches (`isRun_take_runLength`, `IsRun.length_le`).
-/

namespace AccessPoint.Uri

open Ascii

/-- Bytes of the class `p` and escapes, in any order and number. -/
inductive IsRun (p : UInt8 → Bool) : List UInt8 → Prop
  | nil : IsRun p []
  | byte {b : UInt8} {s : List UInt8} : p b → IsRun p s → IsRun p (b :: s)
  | escape {h l : UInt8} {s : List UInt8} :
    isHex h → isHex l → IsRun p s → IsRun p (Ascii.byte '%' :: h :: l :: s)

/-- The length of the longest prefix made of bytes of the class `p` and of escapes. -/
def runLength (p : UInt8 → Bool) : List UInt8 → Nat
  | b :: h :: l :: s =>
    if p b then runLength p (h :: l :: s) + 1
    else if b = byte '%' ∧ isHex h ∧ isHex l then runLength p s + 3
    else 0
  | b :: s => if p b then runLength p s + 1 else 0
  | [] => 0

/-- A run that may be empty. -/
def run (p : UInt8 → Bool) : Recogniser := fun s ↦ .ok (runLength p s)

/-- A run of at least one byte or escape. -/
def run1 (p : UInt8 → Bool) : Recogniser := fun s ↦
  if runLength p s = 0 then .error ⟨.run, 0⟩ else .ok (runLength p s)

/-! ### The length of a run -/

theorem runLength_le_length (p : UInt8 → Bool) (s : List UInt8) : runLength p s ≤ s.length := by
  fun_induction runLength p s <;> simp only [List.length_cons, List.length_nil] at * <;> omega

/-- What `runLength` measures is a run. -/
theorem isRun_take_runLength (p : UInt8 → Bool) (s : List UInt8) :
    IsRun p (s.take (runLength p s)) := by
  fun_induction runLength p s with
  | case1 b h l s hb ih => exact .byte hb ih
  | case2 b h l s _ he ih =>
    obtain ⟨rfl, hh, hl⟩ := he
    exact .escape hh hl ih
  | case3 => exact .nil
  | case4 b s _ hb ih => exact .byte hb ih
  | case5 => exact .nil
  | case6 => exact .nil

theorem runLength_byte {p : UInt8 → Bool} {b : UInt8} (hb : p b) (s : List UInt8) :
    runLength p (b :: s) = runLength p s + 1 := by
  match s with
  | [] => simp [runLength, hb]
  | [_] => simp [runLength, hb]
  | _ :: _ :: _ => rw [runLength, if_pos hb]

/-- No run at the head of the bytes is longer, provided that `p` leaves the percent sign alone. -/
theorem IsRun.length_le {p : UInt8 → Bool} (hp : p (Ascii.byte '%') = false) {t s : List UInt8}
    (ht : IsRun p t) (h : t <+: s) : t.length ≤ runLength p s := by
  induction ht generalizing s with
  | nil => exact Nat.zero_le _
  | byte hb _ ih =>
    obtain ⟨r, rfl⟩ := h
    rw [List.cons_append, runLength_byte hb]
    exact Nat.succ_le_succ (ih ⟨r, rfl⟩)
  | escape hh hl _ ih =>
    obtain ⟨r, rfl⟩ := h
    have := ih ⟨r, rfl⟩
    simp only [List.cons_append, runLength, hp, Bool.false_eq_true, ↓reduceIte, hh, hl, and_self,
      List.length_cons]
    omega

end AccessPoint.Uri

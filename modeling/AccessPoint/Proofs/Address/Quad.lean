import AccessPoint.Address.Ipv4
import AccessPoint.Proofs.Text.Utf8
import Mathlib.Data.List.TakeWhile

/-!
# Dotted quads

What bytes write an address, said without reading them: four groups of one to three digits, parted
by dots, each with the value of its octet (`IsQuad`). `Ipv4.quad` reads such bytes at the head of a
text, and reads the last group as far as three digits go (`quad_eq_ok_iff`). The canonical text of
the address is the same groups without their leading zeros (`utf8_text`).

## Digits

A value is reached digit by digit from the left when it is read, and its decimal text is made from
the right when it is printed. `toDigits_append_digits` is where the two meet: a digit behind a
numeral makes the numeral of ten times its value plus the digit. It holds of numerals that are not
zero only, which is exactly the difference between a text with leading zeros and one without them;
`unpadded` drops the zeros, and `toDigits_digitsValue` is the result.

## Groups

A group ends after its third digit, or in front of a byte that is no digit. In the middle of an
address the second must be the case, since a dot has to follow; behind the last group either may be,
and this is the condition at the end of `quad_eq_ok_iff`. The condition is carried by
`octet_eq_ok_iff` for every group, and dropped where a dot is read (`dotAfter_eq_ok_iff`).

An address is read from a place on, octets and dots in turn. The proof follows that order step by
step (`quad_eq_ok_iff_reads`), and what is left behind one part is what the next was read from.
-/

namespace AccessPoint.Ipv4

open Ascii

variable {s t r g : List UInt8} {ip : Ipv4} {o : UInt8} {b : UInt8} {m n : Nat}

/-! ### Digits and their values -/

/-- A digit and its value. -/
theorem toNat_of_isDigit (h : isDigit b) : 0x30 ≤ b.toNat ∧ b.toNat - 0x30 < 10 := by
  simp only [isDigit, Bool.and_eq_true, decide_eq_true_eq, UInt8.le_iff_toNat_le] at h
  obtain ⟨h1, h2⟩ := h
  change 48 ≤ b.toNat at h1
  change b.toNat ≤ 57 at h2
  omega

/-- A digit is the byte of the digit that its value is written with. -/
theorem utf8EncodeChar_digitChar (h : isDigit b) :
    String.utf8EncodeChar (Nat.digitChar (b.toNat - 0x30)) = [b] := by
  obtain ⟨hle, hlt⟩ := toNat_of_isDigit h
  have hchar : ∀ n < 10,
      String.utf8EncodeChar (Nat.digitChar n) = [UInt8.ofNat (0x30 + n)] := by decide
  rw [hchar _ hlt, Nat.add_sub_of_le hle, UInt8.ofNat_toNat]

/-- Octets are printed with digits. -/
theorem isDigit_of_mem_octetText {c : Char} (h : c ∈ octetText o) : c.isDigit :=
  Nat.isDigit_of_mem_toDigits (by omega) (Nat.le_refl 10) h

/-- So what is printed is ASCII. -/
theorem toNat_lt_of_mem_octetText {c : Char} (h : c ∈ octetText o) : c.toNat < 0x80 := by
  have hle : c.toNat ≤ 0x39 := (Char.isDigit_iff_toNat.1 (isDigit_of_mem_octetText h)).2
  omega

/-- A numeral with a digit behind it is the numeral of ten times its value plus the digit. -/
theorem toDigits_append_digits (hm : 0 < m) (hg : ∀ b ∈ g, isDigit b) :
    (Nat.toDigits 10 m).flatMap String.utf8EncodeChar ++ g =
      (Nat.toDigits 10 (g.foldl (fun n b ↦ 10 * n + (b.toNat - 0x30)) m)).flatMap
        String.utf8EncodeChar := by
  induction g generalizing m with
  | nil => rw [List.append_nil, List.foldl_nil]
  | cons b g ih =>
    obtain ⟨hb, hg⟩ := List.forall_mem_cons.1 hg
    have hlt := (toNat_of_isDigit hb).2
    -- the first digit goes over to the numeral in front of it
    have hstep : Nat.toDigits 10 (10 * m + (b.toNat - 0x30)) =
        Nat.toDigits 10 m ++ [Nat.digitChar (b.toNat - 0x30)] := by
      rw [← Nat.toDigits_append_toDigits (by omega) hm hlt, Nat.toDigits_of_lt_base hlt]
    rw [List.foldl_cons, ← ih (by omega) hg, hstep, List.flatMap_append, List.flatMap_singleton,
      utf8EncodeChar_digitChar hb, List.append_assoc, List.singleton_append]

/-- The digits without leading zeros; the last digit is always kept. -/
def unpadded : List UInt8 → List UInt8
  | b :: c :: g => if b = byte '0' then unpadded (c :: g) else b :: c :: g
  | g => g

/-- The numeral of a value is the digits without leading zeros. -/
theorem toDigits_digitsValue (hg : ∀ b ∈ g, isDigit b) (hne : g ≠ []) :
    (Nat.toDigits 10 (digitsValue g)).flatMap String.utf8EncodeChar = unpadded g := by
  fun_induction unpadded g with
  | case1 c g ih =>
    rw [← ih (List.forall_mem_cons.1 hg).2 (List.cons_ne_nil c g)]
    rfl
  | case2 b c g hb =>
    obtain ⟨hdig, hg⟩ := List.forall_mem_cons.1 hg
    obtain ⟨hle, hlt⟩ := toNat_of_isDigit hdig
    have hpos : 0 < b.toNat - 0x30 := by
      have : b.toNat ≠ 0x30 := fun h ↦ hb (UInt8.toNat_inj.1 h)
      omega
    -- from the first digit that is no zero on, all digits are kept
    have happ := toDigits_append_digits hpos hg
    rw [Nat.toDigits_of_lt_base hlt, List.flatMap_singleton, utf8EncodeChar_digitChar hdig] at happ
    rw [digitsValue, List.foldl_cons, Nat.mul_zero, Nat.zero_add, ← happ]
    rfl
  | case3 g hshort =>
    match g, hne, hshort with
    | [b], _, _ =>
      have hb := hg b (List.mem_singleton_self b)
      have hlt := (toNat_of_isDigit hb).2
      rw [digitsValue, List.foldl_cons, List.foldl_nil, Nat.mul_zero, Nat.zero_add,
        Nat.toDigits_of_lt_base hlt, List.flatMap_singleton, utf8EncodeChar_digitChar hb]
    | b :: c :: g, _, hshort => exact absurd rfl (hshort b c g)

/-- Only zeros are dropped. -/
theorem exists_zeros_append_unpadded (g : List UInt8) :
    ∃ k, g = List.replicate k (byte '0') ++ unpadded g := by
  fun_induction unpadded g with
  | case1 c g ih =>
    obtain ⟨k, hk⟩ := ih
    exact ⟨k + 1, congrArg (byte '0' :: ·) hk⟩
  | case2 => exact ⟨0, rfl⟩
  | case3 => exact ⟨0, rfl⟩

theorem unpadded_ne_nil (h : g ≠ []) : unpadded g ≠ [] := by
  fun_induction unpadded g with
  | case1 c g ih => exact ih (List.cons_ne_nil c g)
  | case2 b c g _ => exact List.cons_ne_nil b (c :: g)
  | case3 => exact h

/-- Digits without a leading zero stay as they are, and so does a single digit. -/
theorem unpadded_eq_self (h : ∀ x t, g ≠ byte '0' :: x :: t) : unpadded g = g := by
  fun_cases unpadded g with
  | case1 c t => exact absurd rfl (h c t)
  | case2 => rfl
  | case3 => rfl

/-- Digits never take a value back below one that was reached. -/
theorem le_foldl_digits (g : List UInt8) (m : Nat) :
    m ≤ g.foldl (fun n b ↦ 10 * n + (b.toNat - 0x30)) m := by
  induction g generalizing m with
  | nil => exact Nat.le_refl m
  | cons b g ih =>
    have := ih (10 * m + (b.toNat - 0x30))
    rw [List.foldl_cons]
    omega

/-- The first digit that is kept is a zero only if the value is zero. -/
theorem head?_unpadded_eq_zero_iff (hg : ∀ b ∈ g, isDigit b) (hne : g ≠ []) :
    (unpadded g).head? = some (byte '0') ↔ digitsValue g = 0 := by
  have hzero : ∀ b, isDigit b → (b = byte '0' ↔ b.toNat - 0x30 = 0) := by
    intro b hb
    obtain ⟨hle, -⟩ := toNat_of_isDigit hb
    have hbyte : (byte '0').toNat = 0x30 := by decide
    rw [← UInt8.toNat_inj, hbyte]
    omega
  fun_induction unpadded g with
  | case1 c g ih =>
    exact ih (List.forall_mem_cons.1 hg).2 (List.cons_ne_nil c g)
  | case2 b c g hb =>
    have hpos : b.toNat - 0x30 ≠ 0 := (hzero b (hg b List.mem_cons_self)).not.1 hb
    -- the value of all digits is no smaller than that of the first
    have hle := le_foldl_digits (c :: g) (b.toNat - 0x30)
    have hvalue : digitsValue (b :: c :: g) =
        (c :: g).foldl (fun n b ↦ 10 * n + (b.toNat - 0x30)) (b.toNat - 0x30) := by
      rw [digitsValue, List.foldl_cons, Nat.mul_zero, Nat.zero_add]
    rw [List.head?_cons, Option.some.injEq, hvalue]
    exact ⟨fun h ↦ absurd h hb, fun h ↦ absurd h (by omega)⟩
  | case3 g hshort =>
    match g, hne, hshort with
    | [b], _, _ =>
      rw [List.head?_cons, Option.some.injEq, hzero b (hg b List.mem_cons_self), digitsValue,
        List.foldl_cons, List.foldl_nil, Nat.mul_zero, Nat.zero_add]
    | b :: c :: g, _, hshort => exact absurd rfl (hshort b c g)

/-! ### One octet -/

theorem eq_false_of_mem_head?_dropWhile {α : Type} {p : α → Bool} {l : List α} {x : α}
    (h : x ∈ (l.dropWhile p).head?) : p x = false := by
  have := List.head?_dropWhile_not p l
  rw [h] at this
  exact this

/-- The bytes write the octet: one to three digits of its value, leading zeros allowed. -/
structure IsOctet (o : UInt8) (g : List UInt8) : Prop where
  digits : ∀ b ∈ g, isDigit b
  ne_nil : g ≠ []
  length_le : g.length ≤ 3
  value : digitsValue g = o.toNat

theorem IsOctet.dot_not_mem (h : IsOctet o g) : byte '.' ∉ g := by
  intro hmem
  exact absurd (h.digits _ hmem) (by decide)

/-- The printed text of an octet is any group that writes it, without its leading zeros. -/
theorem IsOctet.utf8_octetText (h : IsOctet o g) :
    (octetText o).flatMap String.utf8EncodeChar = unpadded g := by
  rw [octetText, ← h.value]
  exact toDigits_digitsValue h.digits h.ne_nil

/-- The digits among the first three bytes are those of a group that has three, or behind which
there is none. -/
theorem takeWhile_take_three (hg : ∀ b ∈ g, isDigit b) (hlen : g.length ≤ 3)
    (hend : g.length = 3 ∨ ∀ x ∈ r.head?, isDigit x = false) :
    ((g ++ r).take 3).takeWhile isDigit = g := by
  rw [List.take_append, List.take_of_length_le hlen, List.takeWhile_append_of_pos hg]
  rcases hend with h3 | hhead
  · rw [h3, Nat.sub_self, List.take_zero, List.takeWhile_nil, List.append_nil]
  · cases r with
    | nil => simp
    | cons x r =>
      have hx : isDigit x = false := hhead x rfl
      cases 3 - g.length with
      | zero => simp
      | succ k => simp [hx]

/-- An octet is read where its bytes stand, and its bytes are all the digits there or three. -/
theorem octet_eq_ok_iff :
    octet s = .ok (o, n) ↔ ∃ g r, s = g ++ r ∧ IsOctet o g ∧ n = g.length ∧
      (g.length = 3 ∨ ∀ x ∈ r.head?, isDigit x = false) := by
  constructor
  · intro h
    rw [octet] at h
    by_cases hne : (s.take 3).takeWhile isDigit = []
    · simp [hne] at h
    simp only [List.isEmpty_iff, hne, if_false] at h
    split at h
    · next hle =>
      obtain ⟨rfl, rfl⟩ := Prod.mk.inj (Except.ok.inj h)
      have hsplit := List.takeWhile_append_dropWhile (p := isDigit) (l := s.take 3)
      have hlen := congrArg List.length hsplit
      rw [List.length_append, List.length_take] at hlen
      refine ⟨_, (s.take 3).dropWhile isDigit ++ s.drop 3, ?_,
        ⟨fun b hb ↦ List.mem_takeWhile_imp hb, hne, by omega, ?_⟩, rfl, ?_⟩
      · rw [← List.append_assoc, hsplit, List.take_append_drop]
      · exact (UInt8.toNat_ofNat_of_lt' (Nat.lt_succ_of_le hle)).symm
      · -- fewer than three digits end at another byte or with the text
        have hhead : ∀ x ∈ ((s.take 3).dropWhile isDigit).head?, isDigit x = false := fun x hx ↦
          eq_false_of_mem_head?_dropWhile hx
        cases hd : (s.take 3).dropWhile isDigit with
        | nil =>
          rw [hd, List.length_nil] at hlen
          by_cases hs : 3 ≤ s.length
          · exact .inl (by omega)
          · refine .inr fun x hx ↦ ?_
            rw [List.nil_append, List.drop_of_length_le (by omega)] at hx
            cases hx
        | cons x d =>
          rw [hd] at hhead
          exact .inr hhead
    · cases h
  · intro h
    obtain ⟨g, r, rfl, hg, rfl, hend⟩ := h
    have htake : ((g ++ r).take 3).takeWhile isDigit = g :=
      takeWhile_take_three hg.digits hg.length_le hend
    have hle : digitsValue g ≤ 255 := by
      have := o.toNat_lt
      have := hg.value
      omega
    simp only [octet, htake, List.isEmpty_iff, hg.ne_nil, if_false, hle, if_true]
    rw [hg.value]
    simp

/-! ### Four octets -/

/-- Four groups of bytes with dots between them. -/
def dotted (a b c d : List UInt8) : List UInt8 :=
  a ++ byte '.' :: (b ++ byte '.' :: (c ++ byte '.' :: d))

/-- The bytes write the address: its four octets, parted by dots. -/
def IsQuad (ip : Ipv4) (s : List UInt8) : Prop :=
  ∃ a b c d, s = dotted a b c d ∧ IsOctet ip.a a ∧ IsOctet ip.b b ∧ IsOctet ip.c c ∧ IsOctet ip.d d

/-- The canonical text writes each octet without leading zeros. -/
theorem utf8_text {a b c d : List UInt8} (ha : IsOctet ip.a a) (hb : IsOctet ip.b b)
    (hc : IsOctet ip.c c) (hd : IsOctet ip.d d) :
    Text.utf8 ip.text = dotted (unpadded a) (unpadded b) (unpadded c) (unpadded d) := by
  have hdot : String.utf8EncodeChar '.' = [byte '.'] := by decide
  simp only [text, Text.utf8_ofList, List.flatMap_append, List.flatMap_cons, hdot,
    ha.utf8_octetText, hb.utf8_octetText, hc.utf8_octetText, hd.utf8_octetText, dotted,
    List.append_assoc, List.cons_append, List.nil_append]

theorem bind_eq_ok_iff {ε α β : Type} {x : Except ε α} {f : α → Except ε β} {y : β} :
    (x >>= f) = .ok y ↔ ∃ a, x = .ok a ∧ f a = .ok y := by
  cases x with
  | ok a => simp [bind, Except.bind]
  | error e => simp [bind, Except.bind]

/-- An octet after `m` bytes ends where its group ends. -/
theorem octetAfter_eq_ok_iff :
    octetAfter m s = .ok (o, n) ↔ ∃ g r, s.drop m = g ++ r ∧ IsOctet o g ∧ n = m + g.length ∧
      (g.length = 3 ∨ ∀ x ∈ r.head?, isDigit x = false) := by
  have hread : octetAfter m s = .ok (o, n) ↔ ∃ k, octet (s.drop m) = .ok (o, k) ∧ n = m + k := by
    cases h : octet (s.drop m) with
    | error f => simp [octetAfter, h]
    | ok read =>
      obtain ⟨o', k⟩ := read
      simp only [octetAfter, h, Except.ok.injEq, Prod.mk.injEq]
      exact ⟨fun ⟨ho, hk⟩ ↦ ⟨k, ⟨ho, rfl⟩, hk.symm⟩, fun ⟨j, ⟨ho, hj⟩, hn⟩ ↦ ⟨ho, hj ▸ hn.symm⟩⟩
  rw [hread]
  constructor
  · intro h
    obtain ⟨k, hk, rfl⟩ := h
    obtain ⟨g, r, hs, hg, rfl, hend⟩ := octet_eq_ok_iff.1 hk
    exact ⟨g, r, hs, hg, rfl, hend⟩
  · intro h
    obtain ⟨g, r, hs, hg, rfl, hend⟩ := h
    exact ⟨g.length, octet_eq_ok_iff.2 ⟨g, r, hs, hg, rfl, hend⟩, rfl⟩

/-- A dot is read where it stands. -/
theorem dotAfter_eq_ok_iff : dotAfter m s = .ok n ↔ ∃ r, s.drop m = byte '.' :: r ∧ n = m + 1 := by
  rw [dotAfter, Recogniser.after_eq_ok_iff]
  constructor
  · intro h
    obtain ⟨k, hk, rfl⟩ := h
    obtain ⟨⟨r, hr⟩, rfl⟩ := Recogniser.literal_eq_ok_iff.1 hk
    exact ⟨r, hr.symm, rfl⟩
  · intro h
    obtain ⟨r, hr, rfl⟩ := h
    exact ⟨1, Recogniser.literal_eq_ok_iff.2 ⟨⟨r, hr.symm⟩, rfl⟩, rfl⟩

theorem drop_add_length (h : s.drop m = t ++ r) : s.drop (m + t.length) = r := by
  rw [← List.drop_drop, h, List.drop_left]

/-- The four octets and three dots in the order in which they are read. -/
theorem quad_eq_ok_iff_reads :
    quad s = .ok (ip, n) ↔ ∃ k₁ k₂ k₃ k₄ k₅ k₆, octetAfter 0 s = .ok (ip.a, k₁) ∧
      dotAfter k₁ s = .ok k₂ ∧ octetAfter k₂ s = .ok (ip.b, k₃) ∧ dotAfter k₃ s = .ok k₄ ∧
        octetAfter k₄ s = .ok (ip.c, k₅) ∧ dotAfter k₅ s = .ok k₆ ∧
          octetAfter k₆ s = .ok (ip.d, n) := by
  simp only [quad, bind_eq_ok_iff, Prod.exists]
  constructor
  · intro hw
    obtain ⟨a, k₁, h₁, k₂, h₂, b, k₃, h₃, k₄, h₄, c, k₅, h₅, k₆, h₆, d, k₇, h₇, h⟩ := hw
    obtain ⟨rfl, rfl⟩ := Prod.mk.inj (Except.ok.inj h)
    exact ⟨k₁, k₂, k₃, k₄, k₅, k₆, h₁, h₂, h₃, h₄, h₅, h₆, h₇⟩
  · intro h
    obtain ⟨k₁, k₂, k₃, k₄, k₅, k₆, h₁, h₂, h₃, h₄, h₅, h₆, h₇⟩ := h
    exact ⟨_, k₁, h₁, k₂, h₂, _, k₃, h₃, k₄, h₄, _, k₅, h₅, k₆, h₆, _, n, h₇, rfl⟩

/-- **Dotted quads.** An address is read where four octets stand, parted by dots. The last of them
is all the digits that follow its dot, or three of them; what follows an earlier one is a dot. -/
theorem quad_eq_ok_iff :
    quad s = .ok (ip, n) ↔ ∃ a b c d r, s = dotted a b c d ++ r ∧ n = (dotted a b c d).length ∧
      (IsOctet ip.a a ∧ IsOctet ip.b b ∧ IsOctet ip.c c ∧ IsOctet ip.d d) ∧
        (d.length = 3 ∨ ∀ x ∈ r.head?, isDigit x = false) := by
  rw [quad_eq_ok_iff_reads]
  constructor
  · intro h
    obtain ⟨k₁, k₂, k₃, k₄, k₅, k₆, h₁, h₂, h₃, h₄, h₅, h₆, h₇⟩ := h
    obtain ⟨a, r₁, hs₁, ha, rfl, -⟩ := octetAfter_eq_ok_iff.1 h₁
    obtain ⟨r₂, hs₂, rfl⟩ := dotAfter_eq_ok_iff.1 h₂
    obtain ⟨b, r₃, hs₃, hb, rfl, -⟩ := octetAfter_eq_ok_iff.1 h₃
    obtain ⟨r₄, hs₄, rfl⟩ := dotAfter_eq_ok_iff.1 h₄
    obtain ⟨c, r₅, hs₅, hc, rfl, -⟩ := octetAfter_eq_ok_iff.1 h₅
    obtain ⟨r₆, hs₆, rfl⟩ := dotAfter_eq_ok_iff.1 h₆
    obtain ⟨d, r, hs₇, hd, rfl, hend⟩ := octetAfter_eq_ok_iff.1 h₇
    refine ⟨a, b, c, d, r, ?_, ?_, ⟨ha, hb, hc, hd⟩, hend⟩
    · -- what is left behind one part is what the next part was read from
      have e₁ := (drop_add_length hs₁).symm.trans hs₂
      have e₂ := (drop_add_length (t := [byte '.']) hs₂).symm.trans hs₃
      have e₃ := (drop_add_length hs₃).symm.trans hs₄
      have e₄ := (drop_add_length (t := [byte '.']) hs₄).symm.trans hs₅
      have e₅ := (drop_add_length hs₅).symm.trans hs₆
      have e₆ := (drop_add_length (t := [byte '.']) hs₆).symm.trans hs₇
      rw [List.drop_zero] at hs₁
      rw [hs₁, e₁, e₂, e₃, e₄, e₅, e₆, dotted]
      simp only [List.append_assoc, List.cons_append]
    · simp only [dotted, List.length_append, List.length_cons]
      omega
  · intro h
    obtain ⟨a, b, c, d, r, rfl, rfl, ⟨ha, hb, hc, hd⟩, hend⟩ := h
    have hdot : isDigit (byte '.') = false := by decide
    have hstop : ∀ u : List UInt8, ∀ x ∈ (byte '.' :: u).head?, isDigit x = false := by
      rintro u x hx
      obtain rfl := Option.some.inj hx
      exact hdot
    have hs₁ : (dotted a b c d ++ r).drop 0 =
        a ++ byte '.' :: (b ++ byte '.' :: (c ++ byte '.' :: (d ++ r))) := by
      simp [dotted]
    have hs₂ := drop_add_length hs₁
    have hs₃ := drop_add_length (t := [byte '.']) hs₂
    have hs₄ := drop_add_length hs₃
    have hs₅ := drop_add_length (t := [byte '.']) hs₄
    have hs₆ := drop_add_length hs₅
    have hs₇ := drop_add_length (t := [byte '.']) hs₆
    refine ⟨_, _, _, _, _, _, octetAfter_eq_ok_iff.2 ⟨a, _, hs₁, ha, rfl, .inr (hstop _)⟩,
      dotAfter_eq_ok_iff.2 ⟨_, hs₂, rfl⟩,
      octetAfter_eq_ok_iff.2 ⟨b, _, hs₃, hb, rfl, .inr (hstop _)⟩,
      dotAfter_eq_ok_iff.2 ⟨_, hs₄, rfl⟩,
      octetAfter_eq_ok_iff.2 ⟨c, _, hs₅, hc, rfl, .inr (hstop _)⟩,
      dotAfter_eq_ok_iff.2 ⟨_, hs₆, rfl⟩, octetAfter_eq_ok_iff.2 ⟨d, r, hs₇, hd, ?_, hend⟩⟩
    simp only [dotted, List.length_append, List.length_cons]
    omega

end AccessPoint.Ipv4

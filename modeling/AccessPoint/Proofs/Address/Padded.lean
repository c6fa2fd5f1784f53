import AccessPoint.Proofs.Address.Quad

/-!
# Padded addresses

The groups that write an octet are its decimal digits with zeros in front, three digits in all at
most (`isOctet_iff_isPadded`). So an address is read back from every padding of its octets, and from
its canonical text, which is the one without zeros (`utf8_text_eq_dotted`).

A group of digits is cut before its value is looked at: it is the first three digits, or as many as
there are (`IsGroup`). Where its value is too large nothing is tried again with fewer digits, and
the reading fails at the group, whichever of the four it is (`quad_eq_error_of_large`). Both
directions of the reading are in `quad_reads_greedy_groups`.

Two choices keep the proofs short.

* *A recursion for the four groups.* Which of the groups is too large would otherwise be four cases,
  each with the groups in front of it read one by one. `octetsAfter` reads any number of octets
  after each other and is the quad for four of them (`octetsAfter_eq_map_quad`); then a group that
  is too large is met by one induction over the groups in front of it
  (`octetsAfter_eq_error_of_large`).
* *Value and digits are compared once.* An octet has its value as a number, as the decimal text that
  is printed, and as the digits that are read. `octetDigits` is the printed text as bytes, and
  `isOctet_octetDigits` says that it is read as the octet. The converse, that a group with the value
  of the octet has these digits at its end, is what `unpadded` was introduced for.
-/

namespace AccessPoint.Ipv4

open Ascii

variable {s g r t : List UInt8} {ip : Ipv4} {o : UInt8} {m n k : Nat} {gs : List (List UInt8)}
  {cs : List Char}

/-! ### The digits of an octet -/

/-- Digits have the same value as bytes and as characters. -/
theorem digitsValue_map_byte (h : ∀ c ∈ cs, c.toNat < 0x80) :
    digitsValue (cs.map byte) = Nat.ofDigitChars 10 cs 0 := by
  rw [digitsValue]
  generalize 0 = m
  induction cs generalizing m with
  | nil => rfl
  | cons c cs ih =>
    obtain ⟨hc, hcs⟩ := List.forall_mem_cons.1 h
    rw [List.map_cons, List.foldl_cons, ih hcs, Nat.ofDigitChars_cons, Text.toNat_byte_of_lt hc]
    rfl

/-- The digits of the canonical text of an octet. -/
def octetDigits (o : UInt8) : List UInt8 := (octetText o).map byte

theorem flatMap_octetText (o : UInt8) :
    (octetText o).flatMap String.utf8EncodeChar = octetDigits o :=
  Text.flatMap_utf8EncodeChar_of_lt fun _ ↦ toNat_lt_of_mem_octetText

/-- The canonical digits of an octet write it. -/
theorem isOctet_octetDigits (o : UInt8) : IsOctet o (octetDigits o) where
  digits b hb := by
    obtain ⟨c, hc, rfl⟩ := List.mem_map.1 hb
    exact (Text.isDigit_byte_iff (toNat_lt_of_mem_octetText hc)).2 (isDigit_of_mem_octetText hc)
  ne_nil := by
    rw [octetDigits, Ne, List.map_eq_nil_iff]
    exact Nat.toDigits_ne_nil
  length_le := by
    rw [octetDigits, List.length_map]
    refine (Nat.length_toDigits_le_iff (by decide) (by decide)).2 ?_
    exact Nat.lt_trans o.toNat_lt (by decide)
  value := by
    rw [octetDigits, digitsValue_map_byte fun _ ↦ toNat_lt_of_mem_octetText, octetText,
      Nat.ofDigitChars_ten_toDigits]

/-! ### Padding -/

/-- The canonical digits of the octet with zeros in front, at most three digits in all. -/
structure IsPadded (o : UInt8) (g : List UInt8) : Prop where
  length_le : g.length ≤ 3
  zeros : ∃ k, g = List.replicate k (byte '0') ++ octetDigits o

/-- Zeros in front do not count. -/
theorem digitsValue_zeros_append (k : Nat) (g : List UInt8) :
    digitsValue (List.replicate k (byte '0') ++ g) = digitsValue g := by
  induction k with
  | zero => rfl
  | succ k ih => exact ih

/-- The groups that write an octet are its paddings. -/
theorem isOctet_iff_isPadded : IsOctet o g ↔ IsPadded o g := by
  constructor
  · intro h
    obtain ⟨k, hk⟩ := exists_zeros_append_unpadded g
    rw [← h.utf8_octetText, flatMap_octetText] at hk
    exact ⟨h.length_le, k, hk⟩
  · intro h
    obtain ⟨hlen, k, rfl⟩ := h
    have hoct := isOctet_octetDigits o
    constructor
    case digits =>
      refine List.forall_mem_append.2 ⟨fun b hb ↦ ?_, hoct.digits⟩
      rw [List.eq_of_mem_replicate hb]
      decide
    case ne_nil => exact List.append_ne_nil_of_right_ne_nil _ hoct.ne_nil
    case length_le => exact hlen
    case value => rw [digitsValue_zeros_append, hoct.value]

/-- The canonical digits are padded with nothing. -/
theorem isPadded_octetDigits (o : UInt8) : IsPadded o (octetDigits o) :=
  isOctet_iff_isPadded.1 (isOctet_octetDigits o)

/-- The canonical text of an address is the canonical digits of its octets, parted by dots. -/
theorem utf8_text_eq_dotted (ip : Ipv4) : Text.utf8 ip.text =
    dotted (octetDigits ip.a) (octetDigits ip.b) (octetDigits ip.c) (octetDigits ip.d) := by
  have hunpadded : ∀ o, unpadded (octetDigits o) = octetDigits o := by
    intro o
    rw [← (isOctet_octetDigits o).utf8_octetText, flatMap_octetText]
  rw [utf8_text (isOctet_octetDigits _) (isOctet_octetDigits _) (isOctet_octetDigits _)
    (isOctet_octetDigits _), hunpadded, hunpadded, hunpadded, hunpadded]

/-! ### Groups that are too large -/

/-- Where `g ++ r` stands, the digits in `g` are read as a group: three, or all that there are. -/
structure IsGroup (g r : List UInt8) : Prop where
  digits : ∀ b ∈ g, isDigit b
  ne_nil : g ≠ []
  length_le : g.length ≤ 3
  greedy : g.length = 3 ∨ ∀ x ∈ r.head?, isDigit x = false

/-- A group that is too large is refused where it begins, and not read again with fewer digits. -/
theorem octetAfter_eq_error_of_large (hs : s.drop n = g ++ r) (hg : IsGroup g r)
    (hlarge : 255 < digitsValue g) : octetAfter n s = .error ⟨.value, n⟩ := by
  have htake := takeWhile_take_three hg.digits hg.length_le hg.greedy
  have hoctet : octet (g ++ r) = .error ⟨.value, 0⟩ := by
    simp only [octet, htake, List.isEmpty_iff, hg.ne_nil, if_false, Nat.not_le.2 hlarge]
  rw [octetAfter, hs, hoctet]
  rfl

/-- The groups with a dot behind each of them. -/
def withDots (gs : List (List UInt8)) : List UInt8 := gs.flatMap (· ++ [byte '.'])

theorem withDots_cons (g : List UInt8) (gs : List (List UInt8)) :
    withDots (g :: gs) = g ++ byte '.' :: withDots gs := by
  simp [withDots]

/-- Octets parted by dots at the place `n`, the last of them behind `k` others. -/
def octetsAfter : Nat → Nat → List UInt8 → Except Failure (List UInt8 × Nat)
  | 0, n, s => do
    let (o, n) ← octetAfter n s
    return ([o], n)
  | k + 1, n, s => do
    let (o, n) ← octetAfter n s
    let n ← dotAfter n s
    let (os, n) ← octetsAfter k n s
    return (o :: os, n)

/-- A quad is four octets from the head of the bytes on. -/
theorem octetsAfter_eq_map_quad (s : List UInt8) :
    octetsAfter 3 0 s = (fun (ip, n) ↦ ([ip.a, ip.b, ip.c, ip.d], n)) <$> quad s := by
  simp only [octetsAfter, quad, map_bind, map_pure, bind_assoc, pure_bind]

/-- Where at most `k` octets are read, and then a group that is too large, the reading ends. -/
theorem octetsAfter_eq_error_of_large (hgs : ∀ h ∈ gs, ∃ o, IsOctet o h) (hg : IsGroup g r)
    (hlarge : 255 < digitsValue g) (hk : gs.length ≤ k) (hs : s.drop n = withDots gs ++ (g ++ r)) :
    octetsAfter k n s = .error ⟨.value, n + (withDots gs).length⟩ := by
  induction gs generalizing k n with
  | nil =>
    have hs' : s.drop n = g ++ r := hs
    have hread := octetAfter_eq_error_of_large hs' hg hlarge
    cases k with
    | zero => rw [octetsAfter, hread]; rfl
    | succ k => rw [octetsAfter, hread]; rfl
  | cons h gs ih =>
    obtain ⟨⟨o, ho⟩, hgs⟩ := List.forall_mem_cons.1 hgs
    obtain ⟨k, rfl⟩ := Nat.exists_eq_succ_of_ne_zero (Nat.ne_zero_of_lt hk)
    have hs₁ : s.drop n = h ++ byte '.' :: (withDots gs ++ (g ++ r)) := by
      rw [hs, withDots_cons, List.append_assoc, List.cons_append]
    have hs₂ := drop_add_length hs₁
    have hs₃ : s.drop (n + h.length + 1) = withDots gs ++ (g ++ r) := drop_add_length (t := [_]) hs₂
    have hstop : ∀ x ∈ (byte '.' :: (withDots gs ++ (g ++ r))).head?, isDigit x = false := by
      intro x hx
      obtain rfl := Option.some.inj hx
      decide
    have hoctet := octetAfter_eq_ok_iff.2 ⟨h, _, hs₁, ho, rfl, .inr hstop⟩
    have hdot := dotAfter_eq_ok_iff.2 ⟨_, hs₂, rfl⟩
    have hrest := ih hgs (Nat.le_of_succ_le_succ hk) hs₃
    have hlength : n + (withDots (h :: gs)).length = n + h.length + 1 + (withDots gs).length := by
      rw [withDots_cons, List.length_append, List.length_cons]
      omega
    rw [hlength, octetsAfter, hoctet]
    show (dotAfter (n + h.length) s >>= _) = _
    rw [hdot]
    show (octetsAfter k (n + h.length + 1) s >>= _) = _
    rw [hrest]
    rfl

/-- Whichever of the four groups is too large, the reading fails at it. -/
theorem quad_eq_error_of_large (hgs : ∀ h ∈ gs, ∃ o, IsOctet o h) (hlen : gs.length < 4)
    (hg : IsGroup g r) (hlarge : 255 < digitsValue g) :
    quad (withDots gs ++ (g ++ r)) = .error ⟨.value, (withDots gs).length⟩ := by
  have hoctets := octetsAfter_eq_error_of_large (n := 0) hgs hg hlarge (Nat.le_of_lt_succ hlen) rfl
  rw [octetsAfter_eq_map_quad, Nat.zero_add] at hoctets
  cases hquad : quad (withDots gs ++ (g ++ r)) with
  | ok x =>
    rw [hquad] at hoctets
    cases hoctets
  | error f =>
    rw [hquad] at hoctets
    obtain rfl := Except.error.inj hoctets
    rfl

/-! ### Both directions -/

/-- Padded octets parted by dots are read, whatever follows, unless a digit goes on the last. -/
theorem quad_dotted_append {a b c d : List UInt8} (ha : IsPadded ip.a a) (hb : IsPadded ip.b b)
    (hc : IsPadded ip.c c) (hd : IsPadded ip.d d) (hr : ∀ x ∈ r.head?, isDigit x = false) :
    quad (dotted a b c d ++ r) = .ok (ip, (dotted a b c d).length) :=
  quad_eq_ok_iff.2 ⟨a, b, c, d, r, rfl, rfl, ⟨isOctet_iff_isPadded.2 ha, isOctet_iff_isPadded.2 hb,
    isOctet_iff_isPadded.2 hc, isOctet_iff_isPadded.2 hd⟩, .inr hr⟩

/-- **A dotted quad is read group by group, each as far as it goes.** An address is read, and `r` is
left, exactly if the bytes are four groups that write its octets, parted by dots, and then `r`,
where the last group has three digits or `r` begins with none. A group is not read again with fewer
digits if its value is too large: behind the groups in front of it, the reading fails.

So every way to pad the octets of an address to at most three digits is read as that address, if no
digit follows, and so is its canonical text. -/
theorem quad_reads_greedy_groups (s : List UInt8) :
    (∀ ip n r, quad s = .ok (ip, n) ∧ s.drop n = r ↔
      ∃ a b c d, s = dotted a b c d ++ r ∧ n = (dotted a b c d).length ∧
        (IsOctet ip.a a ∧ IsOctet ip.b b ∧ IsOctet ip.c c ∧ IsOctet ip.d d) ∧
          (d.length = 3 ∨ ∀ x ∈ r.head?, isDigit x = false)) ∧
    (∀ gs g r, s = withDots gs ++ (g ++ r) → gs.length < 4 → (∀ h ∈ gs, ∃ o, IsOctet o h) →
      IsGroup g r → 255 < digitsValue g → quad s = .error ⟨.value, (withDots gs).length⟩) ∧
    (∀ (ip : Ipv4) a b c d r, s = dotted a b c d ++ r → IsPadded ip.a a → IsPadded ip.b b →
      IsPadded ip.c c → IsPadded ip.d d → (∀ x ∈ r.head?, isDigit x = false) →
        quad s = .ok (ip, (dotted a b c d).length) ∧ s.drop (dotted a b c d).length = r) ∧
    (∀ (ip : Ipv4) r, s = Text.utf8 ip.text ++ r → (∀ x ∈ r.head?, isDigit x = false) →
      quad s = .ok (ip, (Text.utf8 ip.text).length) ∧ s.drop (Text.utf8 ip.text).length = r) := by
  refine ⟨fun ip n r ↦ ?_, ?_, ?_, ?_⟩
  · rw [quad_eq_ok_iff]
    constructor
    · intro h
      obtain ⟨⟨a, b, c, d, r', rfl, rfl, hoct, hend⟩, rfl⟩ := h
      rw [List.drop_left]
      exact ⟨a, b, c, d, rfl, rfl, hoct, hend⟩
    · intro h
      obtain ⟨a, b, c, d, rfl, rfl, hoct, hend⟩ := h
      exact ⟨⟨a, b, c, d, r, rfl, rfl, hoct, hend⟩, List.drop_left⟩
  · rintro gs g r rfl hlen hgs hg hlarge
    exact quad_eq_error_of_large hgs hlen hg hlarge
  · rintro ip a b c d r rfl ha hb hc hd hr
    exact ⟨quad_dotted_append ha hb hc hd hr, List.drop_left⟩
  · rintro ip r rfl hr
    rw [utf8_text_eq_dotted]
    exact ⟨quad_dotted_append (isPadded_octetDigits _) (isPadded_octetDigits _)
      (isPadded_octetDigits _) (isPadded_octetDigits _) hr, List.drop_left⟩

/-- A last group cut behind its third digit, and one whose first three digits are too large. -/
theorem quad_reads_greedy_groups_cut :
    quad (Text.utf8 "010.000.000.0019") = .ok (⟨10, 0, 0, 1⟩, 15) ∧
      (Text.utf8 "010.000.000.0019").drop 15 = Text.utf8 "9" ∧
      quad (Text.utf8 "1.02.003.2567") = .error ⟨.value, 9⟩ := by
  have hoctet : ∀ o g, g.all isDigit = true ∧ g ≠ [] ∧ g.length ≤ 3 ∧ digitsValue g = o.toNat →
      IsOctet o g := fun o g h ↦ ⟨List.all_eq_true.1 h.1, h.2.1, h.2.2.1, h.2.2.2⟩
  obtain ⟨hquad, hrest⟩ := ((quad_reads_greedy_groups (Text.utf8 "010.000.000.0019")).1
    ⟨10, 0, 0, 1⟩ 15 (Text.utf8 "9")).2
    ⟨Text.utf8 "010", Text.utf8 "000", Text.utf8 "000", Text.utf8 "001", by decide, by decide,
      ⟨hoctet _ _ (by decide), hoctet _ _ (by decide), hoctet _ _ (by decide),
        hoctet _ _ (by decide)⟩, .inl (by decide)⟩
  have hfront : ∀ h ∈ [Text.utf8 "1", Text.utf8 "02", Text.utf8 "003"], ∃ o, IsOctet o h :=
    List.forall_mem_cons.2 ⟨⟨1, hoctet _ _ (by decide)⟩,
      List.forall_mem_cons.2 ⟨⟨2, hoctet _ _ (by decide)⟩,
        List.forall_mem_singleton.2 ⟨3, hoctet _ _ (by decide)⟩⟩⟩
  have hlast : IsGroup (Text.utf8 "256") (Text.utf8 "7") :=
    ⟨List.all_eq_true.1 (by decide), by decide, by decide, .inl (by decide)⟩
  have hlarge := (quad_reads_greedy_groups (Text.utf8 "1.02.003.2567")).2.1 _ _ _ (by decide)
    (by decide) hfront hlast (by decide)
  exact ⟨hquad, hrest, hlarge⟩

end AccessPoint.Ipv4

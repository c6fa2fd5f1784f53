import AccessPoint.Proofs.Address.Zeros.Plain

/-!
# Escapes and the padding of literals

A literal is told by the digits and dots next to it alone, so it may begin within an escape: `01` in
`%01.2.3.4` are the digits of an escape and the first octet of a literal. Dropping the padding
changes the escapes of a text exactly where that is so (`CutsEscape`,
`escapes_withoutPadding_eq_iff`). A padded literal stands directly behind the percent sign, or the
first digit of the literal is the second one of the escape and is not kept.

The two ways are the two alternatives of `Cuts`, which speaks of the bytes behind a percent sign.

* The literal begins right behind the sign. Then its first octet, whose leading zero is the first
  digit of the escape, is shortened, and the escape has other digits or none
  (`escapeDigits?_withoutPadding_ne`). An octet of two zeros is no exception: a zero and the dot
  remain.
* A letter stands between, and the literal begins at the second digit. Then the zero that leads it
  is dropped, unless the octet is zero, whose last zero is kept
  (`head?_withoutPadding_of_leadsPadded`). For this reason the address has to be named in
  `LeadsPadded`.

No other literal can reach an escape: only two bytes count behind the sign
(`escapeDigits?_take_two`), and of a literal whose first octet has no padding these two stay
(`take_two_withoutPadding`).

For whole texts the escapes are compared as lists. Equality of the lists gives equality at each
place because escapes are never added (`length_escapes_withoutPadding_le`); without that, an escape
that is lost could be made up for by one that appears.
-/

namespace AccessPoint.Uri

open Ascii Ipv4 Zeros Zeros.Plain

variable {r s t u : List UInt8} {ip : Ipv4} {b x : UInt8}

/-! ### Escapes -/

/-- The two hexadecimal digits at the head, if two stand there. -/
def escapeDigits? : List UInt8 → Option (UInt8 × UInt8)
  | h :: l :: _ => if isHex h && isHex l then some (h, l) else none
  | _ => none

/-- The escapes of a text in their order, each by its two digits. -/
def escapes : List UInt8 → List (UInt8 × UInt8)
  | [] => []
  | b :: s => if b = byte '%' then (escapeDigits? s).toList ++ escapes s else escapes s

/-- Only the first two bytes count. -/
theorem escapeDigits?_take_two (s : List UInt8) : escapeDigits? (s.take 2) = escapeDigits? s := by
  match s with
  | [] => rfl
  | [_] => rfl
  | _ :: _ :: _ => rfl

/-- Behind the first digit only one more byte counts. -/
theorem escapeDigits?_cons_eq_of_head?_eq (h : s.head? = t.head?) :
    escapeDigits? (b :: s) = escapeDigits? (b :: t) := by
  rw [← escapeDigits?_take_two, List.take_succ_cons, List.take_one, h, ← List.take_one,
    ← List.take_succ_cons, escapeDigits?_take_two]

/-- A byte that is no hexadecimal digit begins no escape. -/
theorem escapeDigits?_cons_of_not_isHex (h : isHex b = false) (s : List UInt8) :
    escapeDigits? (b :: s) = none := by
  cases s with
  | nil => rfl
  | cons x s => simp [escapeDigits?, h]

/-- Two digits make an escape, whatever follows. -/
theorem escapeDigits?_cons_of_head? (hb : isHex b) (hx : isHex x) (h : s.head? = some x) :
    escapeDigits? (b :: s) = some (b, x) := by
  obtain ⟨s, rfl⟩ := List.head?_eq_some_iff.1 h
  simp [escapeDigits?, hb, hx]

theorem isHex_of_isDigit (h : isDigit b) : isHex b := by
  rw [isHex, h]
  rfl

/-- Without a percent sign there is no escape. -/
theorem escapes_append_of_not_mem (h : byte '%' ∉ r) (s : List UInt8) :
    escapes (r ++ s) = escapes s := by
  induction r with
  | nil => rfl
  | cons b r ih =>
    obtain ⟨hb, hr⟩ := not_or.1 (List.mem_cons.not.1 h)
    rw [List.cons_append, escapes, if_neg (Ne.symm hb), ih hr]

/-! ### Literals at the head of a text -/

/-- A literal whose first octet has a leading zero stands at the head. -/
def LeadsPadded (ip : Ipv4) (s : List UInt8) : Prop :=
  ∃ x g b c d r, s = dotted (byte '0' :: x :: g) b c d ++ r ∧ Clear r ∧
    IsOctet ip.a (byte '0' :: x :: g) ∧ IsOctet ip.b b ∧ IsOctet ip.c c ∧ IsOctet ip.d d

/-- Behind a percent sign: dropping the padding changes the two bytes that stand there. -/
def Cuts (s : List UInt8) : Prop :=
  (∃ ip, LeadsPadded ip s) ∨
    ∃ h t ip, s = h :: t ∧ isHex h ∧ isDigit h = false ∧ LeadsPadded ip t ∧ ip.a ≠ 0

/-- A padded literal takes a digit of an escape away. -/
def CutsEscape (s : List UInt8) : Prop := ∃ t r, s = t ++ byte '%' :: r ∧ Cuts r

/-- A literal at the head is shortened octet by octet, and the rest by itself. -/
theorem withoutPadding_dotted {a b c d : List UInt8} (ha : IsOctet ip.a a) (hb : IsOctet ip.b b)
    (hc : IsOctet ip.c c) (hd : IsOctet ip.d d) (hr : Clear r) :
    withoutPadding (dotted a b c d ++ r) =
      dotted (unpadded a) (unpadded b) (unpadded c) (unpadded d) ++ withoutPadding r := by
  have hquad : IsQuad ip (dotted a b c d) := ⟨a, b, c, d, rfl, ha, hb, hc, hd⟩
  rw [withoutPadding_append_of_quadBytes (fun x hx ↦ isQuadByte_of_isQuad hquad hx) hr,
    trimStretch_dotted ha hb hc hd]

/-- The first two bytes of a stretch and what follows it stay unless the stretch is a literal with a
padded first octet. -/
theorem take_two_withoutPadding (hne : r ≠ []) (hr : ∀ b ∈ r, isQuadByte b) (hs : Clear s)
    (h : ∀ ip, ¬LeadsPadded ip (r ++ s)) :
    (withoutPadding (r ++ s)).take 2 = (r ++ s).take 2 := by
  cases hlit : literal? r with
  | none =>
    rw [withoutPadding_append_of_quadBytes hr hs, trimStretch_of_eq_none hlit]
    match r, hne with
    | [b], _ =>
      show b :: (withoutPadding s).take 1 = b :: s.take 1
      rw [List.take_one, List.take_one, head?_withoutPadding_of_clear hs]
    | b :: c :: r, _ => rfl
  | some ip =>
    obtain ⟨a, b, c, d, rfl, ha, hb, hc, hd⟩ := literal?_eq_some_iff.1 hlit
    -- an unpadded first octet stays, and so does the dot behind it
    have hself : unpadded a = a := by
      refine unpadded_eq_self fun x g hg ↦ h ip ?_
      exact ⟨x, g, b, c, d, s, by rw [hg], hs, hg ▸ ha, hb, hc, hd⟩
    rw [withoutPadding_dotted ha hb hc hd hs, hself]
    match a, ha.ne_nil with
    | [y], _ => rfl
    | y :: z :: a, _ => rfl

/-- The byte at the head of a text stays unless a padded literal stands there. -/
theorem head?_withoutPadding (h : ∀ ip, ¬LeadsPadded ip s) :
    (withoutPadding s).head? = s.head? := by
  cases s using induction_stretches isQuadByte with
  | nil => rfl
  | other b s hb _ => exact head?_withoutPadding_of_clear (clear_cons hb)
  | stretch r s hne hr hs _ =>
    have htwo := congrArg List.head? (take_two_withoutPadding hne hr hs h)
    rwa [List.head?_take, List.head?_take, if_neg (by decide), if_neg (by decide)] at htwo

/-- Where a padded literal stands, the first digit that is kept is a zero only if the octet is. -/
theorem head?_withoutPadding_of_leadsPadded (h : LeadsPadded ip s) :
    ∃ y, (withoutPadding s).head? = some y ∧ isDigit y ∧ (y = byte '0' ↔ ip.a = 0) := by
  obtain ⟨x, g, b, c, d, r, rfl, hr, ha, hb, hc, hd⟩ := h
  have hzero := head?_unpadded_eq_zero_iff ha.digits ha.ne_nil
  obtain ⟨k, hk⟩ := exists_zeros_append_unpadded (byte '0' :: x :: g)
  rw [withoutPadding_dotted ha hb hc hd hr]
  cases hg : unpadded (byte '0' :: x :: g) with
  | nil => exact absurd hg (unpadded_ne_nil ha.ne_nil)
  | cons y u =>
    rw [hg] at hk hzero
    refine ⟨y, rfl, ha.digits y (by rw [hk]; simp), ?_⟩
    rw [List.head?_cons, Option.some.injEq, ha.value] at hzero
    rw [hzero, ← UInt8.toNat_inj]
    rfl

/-- Where a padded literal stands, its first two digits do not stay. -/
theorem escapeDigits?_withoutPadding_ne (h : LeadsPadded ip s) :
    (escapeDigits? s).isSome ∧ escapeDigits? (withoutPadding s) ≠ escapeDigits? s := by
  obtain ⟨x, g, b, c, d, r, rfl, hr, ha, hb, hc, hd⟩ := h
  have hx : isHex x := isHex_of_isDigit (ha.digits x (by simp))
  have hzero : isHex (byte '0') := by decide
  have hdot : isHex (byte '.') = false := by decide
  have hsome : escapeDigits? (dotted (byte '0' :: x :: g) b c d ++ r) = some (byte '0', x) := by
    simp [dotted, escapeDigits?, hx, hzero]
  refine ⟨by rw [hsome]; rfl, ?_⟩
  rw [withoutPadding_dotted ha hb hc hd hr, hsome]
  rcases g with _ | ⟨y, _ | ⟨z, g⟩⟩
  · -- one digit is kept, and the dot is next
    simp [unpadded, dotted, escapeDigits?, hdot]
  · by_cases hx0 : x = byte '0'
    · simp [unpadded, dotted, escapeDigits?, hx0, hdot]
    · have hunpadded : unpadded (byte '0' :: x :: [y]) = [x, y] := by simp [unpadded, hx0]
      rw [hunpadded]
      intro heq
      simp only [dotted, List.cons_append, escapeDigits?] at heq
      split at heq
      · exact hx0 (Prod.mk.inj (Option.some.inj heq)).1
      · cases heq
  · have hlen := ha.length_le
    simp only [List.length_cons] at hlen
    omega

/-- A hexadecimal digit that is no decimal one is no part of a literal. -/
theorem isQuadByte_of_isHex (h : isHex b) (hb : isDigit b = false) : isQuadByte b = false := by
  rw [isQuadByte, hb, Bool.false_or, beq_eq_false_iff_ne]
  rintro rfl
  exact absurd h (by decide)

/-- A padded first octet begins with a zero. -/
theorem head?_of_leadsPadded (h : LeadsPadded ip s) : s.head? = some (byte '0') := by
  obtain ⟨x, g, b, c, d, r, rfl, -⟩ := h
  rfl

/-- A padded literal that cuts digits of an escape stands where there are such digits. -/
theorem isSome_escapeDigits?_of_cuts (h : Cuts s) : (escapeDigits? s).isSome := by
  rcases h with ⟨ip, h⟩ | ⟨b, t, ip, rfl, hb, -, ht, -⟩
  · exact (escapeDigits?_withoutPadding_ne h).1
  · rw [escapeDigits?_cons_of_head? hb (by decide) (head?_of_leadsPadded ht)]
    rfl

/-- The digits of an escape stay unless a padded literal cuts them. -/
theorem escapeDigits?_withoutPadding_eq_iff :
    escapeDigits? (withoutPadding s) = escapeDigits? s ↔ ¬Cuts s := by
  constructor
  · intro heq hw
    rcases hw with ⟨ip, h⟩ | ⟨b, t, ip, rfl, hb, hdigit, ht, hne⟩
    · exact (escapeDigits?_withoutPadding_ne h).2 heq
    · obtain ⟨y, hy, hdig, hiff⟩ := head?_withoutPadding_of_leadsPadded ht
      rw [withoutPadding_cons (isQuadByte_of_isHex hb hdigit),
        escapeDigits?_cons_of_head? hb (isHex_of_isDigit hdig) hy,
        escapeDigits?_cons_of_head? hb (by decide) (head?_of_leadsPadded ht)] at heq
      exact hne (hiff.1 (Prod.mk.inj (Option.some.inj heq)).2)
  · intro hno
    by_cases hlead : ∃ ip, LeadsPadded ip s
    · exact absurd (.inl hlead) hno
    rw [not_exists] at hlead
    cases s using induction_stretches isQuadByte with
    | nil => rfl
    | stretch r s hne hr hs _ =>
      rw [← escapeDigits?_take_two, take_two_withoutPadding hne hr hs hlead, escapeDigits?_take_two]
    | other b s hb _ =>
      rw [withoutPadding_cons hb]
      cases hhex : isHex b with
      | false => rw [escapeDigits?_cons_of_not_isHex hhex, escapeDigits?_cons_of_not_isHex hhex]
      | true =>
        refine escapeDigits?_cons_eq_of_head?_eq ?_
        by_cases hs : ∃ ip, LeadsPadded ip s
        · -- the literal behind the first digit keeps its zero
          obtain ⟨ip, hip⟩ := hs
          obtain ⟨y, hy, -, hiff⟩ := head?_withoutPadding_of_leadsPadded hip
          have hdigit : isDigit b = false := (Bool.or_eq_false_iff.1 hb).1
          have hzero : ip.a = 0 := by
            by_contra hne
            exact hno (.inr ⟨b, s, ip, rfl, hhex, hdigit, hip, hne⟩)
          rw [hy, head?_of_leadsPadded hip, hiff.2 hzero]
        · exact head?_withoutPadding (not_exists.1 hs)

/-! ### The escapes of a whole text -/

/-- An escape is cut at the head or further on. -/
theorem cutsEscape_cons_iff : CutsEscape (b :: s) ↔ b = byte '%' ∧ Cuts s ∨ CutsEscape s := by
  constructor
  · intro hw
    obtain ⟨t, r, h, hr⟩ := hw
    cases t with
    | nil =>
      obtain ⟨rfl, rfl⟩ := List.cons.inj h
      exact .inl ⟨rfl, hr⟩
    | cons x t =>
      obtain ⟨rfl, rfl⟩ := List.cons.inj h
      exact .inr ⟨t, r, rfl, hr⟩
  · intro h
    rcases h with ⟨rfl, hs⟩ | ⟨t, r, rfl, hr⟩
    · exact ⟨[], s, rfl, hs⟩
    · exact ⟨b :: t, r, rfl, hr⟩

/-- Bytes without a percent sign hold no escape that could be cut. -/
theorem cutsEscape_append_iff (h : byte '%' ∉ r) : CutsEscape (r ++ s) ↔ CutsEscape s := by
  induction r with
  | nil => rfl
  | cons b r ih =>
    obtain ⟨hb, hr⟩ := not_or.1 (List.mem_cons.not.1 h)
    rw [List.cons_append, cutsEscape_cons_iff, ih hr]
    exact or_iff_right fun h ↦ hb h.1.symm

/-- What stands in front does not undo a cut. -/
theorem CutsEscape.append_left (h : CutsEscape s) (t : List UInt8) : CutsEscape (t ++ s) := by
  obtain ⟨u, r, rfl, hr⟩ := h
  exact ⟨t ++ u, r, (List.append_assoc t u _).symm, hr⟩

/-- A literal stays one if what follows does not carry its digits and dots on. -/
theorem LeadsPadded.append (h : LeadsPadded ip s) (hu : Clear u) : LeadsPadded ip (s ++ u) := by
  obtain ⟨x, g, b, c, d, r, rfl, hr, hoct⟩ := h
  refine ⟨x, g, b, c, d, r ++ u, List.append_assoc _ r u, ?_, hoct⟩
  cases r with
  | nil => exact hu
  | cons y r => exact hr.append (List.cons_ne_nil y r)

/-- What follows does not undo a cut if it does not go on with the digits and dots. -/
theorem CutsEscape.append_right (h : CutsEscape s) (hu : Clear u) : CutsEscape (s ++ u) := by
  obtain ⟨t, r, rfl, hr⟩ := h
  refine ⟨t, r ++ u, List.append_assoc t _ u, ?_⟩
  rcases hr with ⟨ip, hr⟩ | ⟨b, r, ip, rfl, hb, hdigit, hr, hne⟩
  · exact .inl ⟨ip, hr.append hu⟩
  · exact .inr ⟨b, r ++ u, ip, rfl, hb, hdigit, hr.append hu, hne⟩

/-- In nothing, nothing is cut. -/
theorem not_cutsEscape_nil : ¬CutsEscape [] := by
  intro hw
  obtain ⟨t, r, h, -⟩ := hw
  cases t with
  | nil => cases h
  | cons x t => cases h

theorem percent_not_mem (h : ∀ b ∈ r, isQuadByte b) : byte '%' ∉ r := by
  intro hmem
  exact absurd (h _ hmem) (by decide)

/-- Dropping the padding adds no escape. -/
theorem length_escapes_withoutPadding_le (s : List UInt8) :
    (escapes (withoutPadding s)).length ≤ (escapes s).length := by
  induction s using induction_stretches isQuadByte with
  | nil => exact Nat.le_refl _
  | other b s hb ih =>
    rw [withoutPadding_cons hb, escapes, escapes]
    split
    · have hdigits : (escapeDigits? (withoutPadding s)).toList.length ≤
          (escapeDigits? s).toList.length := by
        by_cases hs : Cuts s
        · obtain ⟨e, he⟩ := Option.isSome_iff_exists.1 (isSome_escapeDigits?_of_cuts hs)
          rw [he]
          exact Option.length_toList_le
        · rw [escapeDigits?_withoutPadding_eq_iff.2 hs]
      rw [List.length_append, List.length_append]
      exact Nat.add_le_add hdigits ih
    · exact ih
  | stretch r s _ hr hs ih =>
    have hr' : byte '%' ∉ trimStretch r := fun h ↦ percent_not_mem hr (mem_of_mem_trimStretch h)
    rwa [withoutPadding_append_of_quadBytes hr hs, escapes_append_of_not_mem hr',
      escapes_append_of_not_mem (percent_not_mem hr)]

/-- Dropping the padding keeps the escapes exactly when no padded literal cuts one. -/
theorem escapes_withoutPadding_eq_iff :
    escapes (withoutPadding s) = escapes s ↔ ¬CutsEscape s := by
  induction s using induction_stretches isQuadByte with
  | nil => exact ⟨fun _ ↦ not_cutsEscape_nil, fun _ ↦ rfl⟩
  | other b s hb ih =>
    rw [withoutPadding_cons hb, cutsEscape_cons_iff, escapes, escapes]
    by_cases hpercent : b = byte '%'
    · have hlen := length_escapes_withoutPadding_le s
      simp only [hpercent, if_true, true_and, not_or, ← ih, ← escapeDigits?_withoutPadding_eq_iff]
      constructor
      · intro heq
        cases hd : escapeDigits? s with
        | none =>
          have hs : ¬Cuts s := fun h ↦ by simpa [hd] using isSome_escapeDigits?_of_cuts h
          rw [escapeDigits?_withoutPadding_eq_iff.2 hs, hd] at heq ⊢
          exact ⟨rfl, heq⟩
        | some e =>
          rw [hd] at heq
          cases hd' : escapeDigits? (withoutPadding s) with
          | none =>
            -- an escape was lost, and none was added to make up for it
            rw [hd'] at heq
            have := congrArg List.length heq
            simp only [Option.toList_none, Option.toList_some, List.nil_append,
              List.singleton_append, List.length_cons] at this
            omega
          | some e' =>
            rw [hd'] at heq
            obtain ⟨rfl, hrest⟩ := List.cons.inj heq
            exact ⟨rfl, hrest⟩
      · intro h
        obtain ⟨hdigits, hrest⟩ := h
        rw [hdigits, hrest]
    · simp only [hpercent, if_false, false_and, false_or]
      exact ih
  | stretch r s _ hr hs ih =>
    have hr' : byte '%' ∉ trimStretch r := fun h ↦ percent_not_mem hr (mem_of_mem_trimStretch h)
    rw [withoutPadding_append_of_quadBytes hr hs, escapes_append_of_not_mem hr',
      escapes_append_of_not_mem (percent_not_mem hr), cutsEscape_append_iff (percent_not_mem hr)]
    exact ih

end AccessPoint.Uri

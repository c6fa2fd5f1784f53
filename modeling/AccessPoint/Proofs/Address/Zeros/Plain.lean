import AccessPoint.Address.Zeros.Plain
import AccessPoint.Proofs.Address.Quad
import Mathlib.Data.List.SplitBy

/-!
# Stretches of digits and dots

How a text without padding is put together. A byte that is neither a digit nor a dot stands as it is
(`withoutPadding_cons`), and a maximal stretch of digits and dots is rewritten by itself
(`withoutPadding_append_of_quadBytes`). The text may therefore be cut wherever a stretch does not go
across (`withoutPadding_append`), and what holds of it is proved along its stretches
(`induction_stretches`).

The bytes without padding are again those of a text, because all that is rewritten is ASCII
(`exists_utf8_eq_withoutPadding`).

## How the lemmas are to be used

The definition cuts the text into stretches of both kinds and rewrites each, those of other bytes
too, which are never literals. Nothing after this module looks at that list. The two equations named
first, with `withoutPadding_nil`, are all that an induction along the text needs, and its cases are
those of `induction_stretches`: the empty text, one byte of the other kind, and a stretch with a
text behind it that does not go on with it. That the other bytes are taken one by one in the
induction, and together in the definition, costs an argument once, in `withoutPadding_cons`.

A literal is told by `literal?`, which computes, and described by `IsQuad`, which does not
(`literal?_eq_some_iff`). Whoever proves something about literals uses the description; what is
*not* one is listed in `literal?_eq_none_of_splitOn`.

## What is never lost

Bytes other than digits and dots keep their number, their order and what stands between them
(`exists_of_withoutPadding_eq`), which gives the ends of a text and is what a grammar with fixed
marks needs.
-/

namespace AccessPoint.Zeros.Plain

open Ascii Ipv4

variable {s t u : List UInt8} {ip : Ipv4} {b : UInt8} {o : UInt8}

/-! ### Literals -/

/-- The test for an octet, and the octet that it finds. -/
theorem isOctet_eq_true_iff {g : List UInt8} :
    isOctet g = true ↔ IsOctet (digitsValue g).toUInt8 g := by
  simp only [isOctet, Bool.and_eq_true, List.all_eq_true, decide_eq_true_eq]
  constructor
  · intro h
    obtain ⟨⟨⟨hdig, hpos⟩, hlen⟩, hval⟩ := h
    exact ⟨hdig, List.ne_nil_of_length_pos hpos, hlen,
      (UInt8.toNat_ofNat_of_lt' (Nat.lt_succ_of_le hval)).symm⟩
  · intro h
    have := (digitsValue g).toUInt8.toNat_lt
    have := h.value
    exact ⟨⟨⟨h.digits, List.length_pos_of_ne_nil h.ne_nil⟩, h.length_le⟩, by omega⟩

/-- What writes an octet passes the test, and the value is the octet. -/
theorem isOctet_of_isOctet {g : List UInt8} (h : IsOctet o g) :
    isOctet g = true ∧ (digitsValue g).toUInt8 = o := by
  have hval : (digitsValue g).toUInt8 = o := by rw [h.value]; simp
  exact ⟨isOctet_eq_true_iff.2 (hval.symm ▸ h), hval⟩

/-- Four groups are found again between their dots. -/
theorem splitOn_dotted {a b c d : List UInt8} (ha : byte '.' ∉ a) (hb : byte '.' ∉ b)
    (hc : byte '.' ∉ c) (hd : byte '.' ∉ d) :
    (dotted a b c d).splitOn (byte '.') = [a, b, c, d] := by
  rw [dotted, List.splitOn_append_cons_self_of_not_mem ha,
    List.splitOn_append_cons_self_of_not_mem hb, List.splitOn_append_cons_self_of_not_mem hc,
    List.splitOn_eq_singleton hd]

/-- What falls into four groups between dots is these groups and their dots. -/
theorem eq_dotted_of_splitOn {a b c d : List UInt8} (h : s.splitOn (byte '.') = [a, b, c, d]) :
    s = dotted a b c d := by
  have hjoin : [byte '.'].intercalate (s.splitOn (byte '.')) = s :=
    List.intercalate_splitOn (byte '.')
  rw [← hjoin, h]
  simp [List.intercalate_cons_cons, dotted]

/-- A stretch is a literal for the address that it writes. -/
theorem literal?_eq_some_iff : literal? s = some ip ↔ IsQuad ip s := by
  constructor
  · intro h
    rw [literal?] at h
    split at h
    · next a b c d hsplit =>
      split at h
      · next hoct =>
        obtain rfl := Option.some.inj h
        simp only [List.all_cons, List.all_nil, Bool.and_true, Bool.and_eq_true,
          isOctet_eq_true_iff] at hoct
        obtain ⟨ha, hb, hc, hd⟩ := hoct
        exact ⟨a, b, c, d, eq_dotted_of_splitOn hsplit, ha, hb, hc, hd⟩
      · cases h
    · cases h
  · intro h
    obtain ⟨a, b, c, d, rfl, ha, hb, hc, hd⟩ := h
    rw [literal?, splitOn_dotted ha.dot_not_mem hb.dot_not_mem hc.dot_not_mem hd.dot_not_mem]
    obtain ⟨hoa, hva⟩ := isOctet_of_isOctet ha
    obtain ⟨hob, hvb⟩ := isOctet_of_isOctet hb
    obtain ⟨hoc, hvc⟩ := isOctet_of_isOctet hc
    obtain ⟨hod, hvd⟩ := isOctet_of_isOctet hd
    simp only [List.all_cons, List.all_nil, hoa, hob, hoc, hod, hva, hvb, hvc, hvd, Bool.and_self,
      if_true]

theorem literal?_eq_none_iff : literal? s = none ↔ ∀ ip, ¬IsQuad ip s := by
  rw [Option.eq_none_iff_forall_ne_some]
  exact forall_congr' fun ip ↦ literal?_eq_some_iff.not

/-- Nothing but four octets is a literal: not a stretch with another number of groups, and not one
with a group that is empty, has more than three digits or is too large. -/
theorem literal?_eq_none_of_splitOn (h : (s.splitOn (byte '.')).length ≠ 4 ∨
    ∃ g ∈ s.splitOn (byte '.'), g = [] ∨ 3 < g.length ∨ 255 < digitsValue g) :
    literal? s = none := by
  rw [literal?_eq_none_iff]
  intro ip h
  obtain ⟨a, b, c, d, rfl, ha, hb, hc, hd⟩ := h
  rw [splitOn_dotted ha.dot_not_mem hb.dot_not_mem hc.dot_not_mem hd.dot_not_mem] at h
  rcases h with hlen | ⟨g, hg, hbad⟩
  · exact hlen rfl
  · obtain ⟨o, ho⟩ : ∃ o, IsOctet o g := by
      simp only [List.mem_cons, List.not_mem_nil, or_false] at hg
      rcases hg with rfl | rfl | rfl | rfl
      · exact ⟨_, ha⟩
      · exact ⟨_, hb⟩
      · exact ⟨_, hc⟩
      · exact ⟨_, hd⟩
    have := o.toNat_lt
    have := ho.value
    have := ho.length_le
    rcases hbad with hnil | hlong | hlarge
    · exact ho.ne_nil hnil
    · omega
    · omega

theorem mem_dotted {a b c d : List UInt8} {x : UInt8} :
    x ∈ dotted a b c d ↔ x = byte '.' ∨ x ∈ a ∨ x ∈ b ∨ x ∈ c ∨ x ∈ d := by
  simp only [dotted, List.mem_append, List.mem_cons]
  grind

/-- An address is written with digits and dots. -/
theorem isQuadByte_of_isQuad (h : IsQuad ip s) (hb : b ∈ s) : isQuadByte b := by
  obtain ⟨a, b', c, d, rfl, ha, hb', hc, hd⟩ := h
  rw [isQuadByte, Bool.or_eq_true, beq_iff_eq]
  rcases mem_dotted.1 hb with h | h | h | h | h
  · exact .inr h
  · exact .inl (ha.digits b h)
  · exact .inl (hb'.digits b h)
  · exact .inl (hc.digits b h)
  · exact .inl (hd.digits b h)

/-- A literal is written canonically. -/
theorem trimStretch_of_literal? (h : literal? s = some ip) :
    trimStretch s = Text.utf8 ip.text := by
  rw [trimStretch, h]

theorem trimStretch_of_eq_none (h : literal? s = none) : trimStretch s = s := by
  rw [trimStretch, h]

/-- A stretch with a byte that is neither a digit nor a dot is no literal. -/
theorem literal?_eq_none_of_mem (hb : b ∈ s) (h : isQuadByte b = false) : literal? s = none := by
  rw [literal?_eq_none_iff]
  intro ip hip
  rw [isQuadByte_of_isQuad hip hb] at h
  cases h

/-- A literal loses the leading zeros of its groups. -/
theorem trimStretch_dotted {a b c d : List UInt8} (ha : IsOctet ip.a a) (hb : IsOctet ip.b b)
    (hc : IsOctet ip.c c) (hd : IsOctet ip.d d) :
    trimStretch (dotted a b c d) =
      dotted (unpadded a) (unpadded b) (unpadded c) (unpadded d) := by
  have hquad : IsQuad ip (dotted a b c d) := ⟨a, b, c, d, rfl, ha, hb, hc, hd⟩
  rw [trimStretch_of_literal? (literal?_eq_some_iff.2 hquad), utf8_text ha hb hc hd]

/-- The bytes of a stretch without its padding are among its bytes. -/
theorem mem_of_mem_trimStretch (hb : b ∈ trimStretch s) : b ∈ s := by
  cases h : literal? s with
  | none => rwa [trimStretch_of_eq_none h] at hb
  | some ip =>
    obtain ⟨a, b', c, d, rfl, ha, hb', hc, hd⟩ := literal?_eq_some_iff.1 h
    rw [trimStretch_dotted ha hb' hc hd] at hb
    have hsub : ∀ {g : List UInt8}, b ∈ unpadded g → b ∈ g := by
      intro g hg
      obtain ⟨k, hk⟩ := exists_zeros_append_unpadded g
      rw [hk]
      exact List.mem_append_right _ hg
    rw [mem_dotted] at hb ⊢
    exact hb.imp_right (.imp hsub (.imp hsub (.imp hsub hsub)))

/-- Something is left of every stretch. -/
theorem trimStretch_ne_nil (hs : s ≠ []) : trimStretch s ≠ [] := by
  cases h : literal? s with
  | none => rwa [trimStretch_of_eq_none h]
  | some ip =>
    obtain ⟨a, b, c, d, rfl, ha, hb, hc, hd⟩ := literal?_eq_some_iff.1 h
    rw [trimStretch_dotted ha hb hc hd, dotted]
    exact List.append_ne_nil_of_right_ne_nil _ (List.cons_ne_nil _ _)

/-! ### Stretches -/

/-- No digit or dot stands at the head. -/
def Clear (s : List UInt8) : Prop := ∀ x ∈ s.head?, isQuadByte x = false

theorem clear_nil : Clear [] := fun x hx ↦ by cases hx

theorem clear_cons (h : isQuadByte b = false) : Clear (b :: s) := by
  intro x hx
  obtain rfl := Option.some.inj hx
  exact h

/-- What follows further on does not matter. -/
theorem Clear.append (hs : Clear s) (hne : s ≠ []) : Clear (s ++ t) := by
  obtain ⟨b, s, rfl⟩ := List.exists_cons_of_ne_nil hne
  exact clear_cons (hs b rfl)

/-- A list falls into single members outside a class and maximal stretches of members of it. -/
theorem induction_stretches {α : Type} (p : α → Bool) {motive : List α → Prop} (nil : motive [])
    (other : ∀ b s, p b = false → motive s → motive (b :: s))
    (stretch : ∀ r s, r ≠ [] → (∀ b ∈ r, p b) → (∀ x ∈ s.head?, p x = false) → motive s →
      motive (r ++ s)) (s : List α) : motive s := by
  induction h : s.length using Nat.strongRecOn generalizing s with
  | ind n ih =>
    match s, h with
    | [], _ => exact nil
    | b :: s, h =>
      by_cases hb : p b
      · have hsplit := List.takeWhile_append_dropWhile (p := p) (l := b :: s)
        have hne : (b :: s).takeWhile p ≠ [] := by simp [hb]
        have hlen := congrArg List.length hsplit
        have hpos := List.length_pos_of_ne_nil hne
        rw [List.length_append] at hlen
        rw [← hsplit]
        exact stretch _ _ hne (fun b hb ↦ List.mem_takeWhile_imp hb)
          (fun x hx ↦ eq_false_of_mem_head?_dropWhile hx) (ih _ (by omega) _ rfl)
      · rw [Bool.not_eq_true] at hb
        exact other b s hb (ih s.length (by rw [← h]; exact Nat.lt_succ_self _) s rfl)

/-- A stretch of one kind in front of a byte of the other kind is rewritten by itself. -/
theorem withoutPadding_append_of_kind {k : Bool} (ht : ∀ b ∈ t, isQuadByte b = k)
    (hs : ∀ x ∈ s.head?, isQuadByte x = !k) :
    withoutPadding (t ++ s) = trimStretch t ++ withoutPadding s := by
  rcases eq_or_ne t [] with rfl | hne
  · rfl
  have hchain : t.IsChain fun a b ↦ (isQuadByte a == isQuadByte b) = true := by
    refine (List.pairwise_of_forall_mem_list fun a ha b hb ↦ ?_).isChain
    rw [ht a ha, ht b hb]
    exact beq_self_eq_true k
  rw [withoutPadding, stretches, List.splitBy_append, List.splitBy_of_isChain hne hchain,
    List.flatMap_append, List.flatMap_singleton]
  · rfl
  · intro x hx y hy
    rw [ht x (List.mem_of_mem_getLast? hx), hs y hy]
    cases k <;> rfl

/-! ### The text without padding -/

@[simp] theorem withoutPadding_nil : withoutPadding [] = [] := rfl

/-- A maximal stretch of digits and dots is rewritten by itself. -/
theorem withoutPadding_append_of_quadBytes (ht : ∀ b ∈ t, isQuadByte b) (hs : Clear s) :
    withoutPadding (t ++ s) = trimStretch t ++ withoutPadding s :=
  withoutPadding_append_of_kind ht hs

/-- A text that is one stretch is rewritten as such. -/
theorem withoutPadding_of_quadBytes (ht : ∀ b ∈ t, isQuadByte b) :
    withoutPadding t = trimStretch t := by
  have := withoutPadding_append_of_quadBytes ht clear_nil
  rwa [List.append_nil, withoutPadding_nil, List.append_nil] at this

/-- A byte that is neither a digit nor a dot stands as it is. -/
theorem withoutPadding_cons (hb : isQuadByte b = false) (s : List UInt8) :
    withoutPadding (b :: s) = b :: withoutPadding s := by
  -- `b` and what is of its kind behind it, with and without `b`, are stretches of the same text
  have hsplit := List.takeWhile_append_dropWhile (p := fun x ↦ !isQuadByte x) (l := s)
  have hkind : ∀ x ∈ s.takeWhile fun x ↦ !isQuadByte x, isQuadByte x = false := by
    intro x hx
    simpa using List.mem_takeWhile_imp hx
  have hnext : ∀ x ∈ (s.dropWhile fun x ↦ !isQuadByte x).head?, isQuadByte x = !false := by
    intro x hx
    simpa using eq_false_of_mem_head?_dropWhile hx
  have hcons : ∀ x ∈ b :: s.takeWhile fun x ↦ !isQuadByte x, isQuadByte x = false :=
    List.forall_mem_cons.2 ⟨hb, hkind⟩
  have hsame : ∀ {t : List UInt8}, (∀ x ∈ t, isQuadByte x = false) → trimStretch t = t := by
    intro t ht
    cases t with
    | nil => rfl
    | cons x t =>
      exact trimStretch_of_eq_none (literal?_eq_none_of_mem List.mem_cons_self
        (ht x List.mem_cons_self))
  conv => lhs; rw [← hsplit]
  conv => rhs; rw [← hsplit]
  rw [← List.cons_append, withoutPadding_append_of_kind hcons hnext,
    withoutPadding_append_of_kind hkind hnext, hsame hcons, hsame hkind, List.cons_append]

/-- Where no stretch begins, the first byte stays. -/
theorem head?_withoutPadding_of_clear (h : Clear s) : (withoutPadding s).head? = s.head? := by
  cases s with
  | nil => rfl
  | cons b s => rw [withoutPadding_cons (h b rfl)]; rfl

/-- Bytes that are neither digits nor dots stand as they are. -/
theorem withoutPadding_append_of_not_quadBytes (ht : ∀ b ∈ t, isQuadByte b = false)
    (s : List UInt8) : withoutPadding (t ++ s) = t ++ withoutPadding s := by
  induction t with
  | nil => rfl
  | cons b t ih =>
    obtain ⟨hb, ht⟩ := List.forall_mem_cons.1 ht
    rw [List.cons_append, withoutPadding_cons hb, ih ht, List.cons_append]

/-- A text may be cut wherever a stretch of digits and dots does not go across. -/
theorem withoutPadding_append (h : (∀ x ∈ s.getLast?, isQuadByte x = false) ∨ Clear t) :
    withoutPadding (s ++ t) = withoutPadding s ++ withoutPadding t := by
  induction s using induction_stretches isQuadByte with
  | nil => rfl
  | other b s hb ih =>
    have hcut : (∀ x ∈ s.getLast?, isQuadByte x = false) ∨ Clear t := by
      refine h.imp_left fun hlast x hx ↦ hlast x ?_
      cases s with
      | nil => cases hx
      | cons c s => simpa using hx
    rw [List.cons_append, withoutPadding_cons hb, withoutPadding_cons hb, ih hcut, List.cons_append]
  | stretch r s hne hr hs ih =>
    rcases eq_or_ne s [] with rfl | hs0
    · -- the stretch ends the first part, so the second does not go on with it
      have ht : Clear t := by
        refine h.resolve_left fun hlast ↦ ?_
        have hmem : r.getLast hne ∈ (r ++ []).getLast? := by
          rw [List.append_nil, List.getLast?_eq_getLast_of_ne_nil hne]
          rfl
        have := hlast _ hmem
        rw [hr _ (List.getLast_mem hne)] at this
        cases this
      rw [List.append_nil, withoutPadding_append_of_quadBytes hr ht, withoutPadding_of_quadBytes hr]
    · have hcut : (∀ x ∈ s.getLast?, isQuadByte x = false) ∨ Clear t := by
        refine h.imp_left fun hlast x hx ↦ hlast x ?_
        rw [List.getLast?_append_of_ne_nil _ hs0]
        exact hx
      rw [List.append_assoc, withoutPadding_append_of_quadBytes hr (Clear.append hs hs0),
        withoutPadding_append_of_quadBytes hr hs, ih hcut, List.append_assoc]

/-- A byte that is neither a digit nor a dot cuts the text in two. -/
theorem withoutPadding_append_cons (hb : isQuadByte b = false) (s t : List UInt8) :
    withoutPadding (s ++ b :: t) = withoutPadding s ++ b :: withoutPadding t := by
  rw [withoutPadding_append (.inr (clear_cons hb)), withoutPadding_cons hb]

/-- No byte is new. -/
theorem mem_of_mem_withoutPadding (h : b ∈ withoutPadding s) : b ∈ s := by
  induction s using induction_stretches isQuadByte with
  | nil => exact h
  | other c s hc ih =>
    rw [withoutPadding_cons hc] at h
    rcases List.mem_cons.1 h with rfl | h
    · exact List.mem_cons_self
    · exact List.mem_cons_of_mem c (ih h)
  | stretch r s _ hr hs ih =>
    rw [withoutPadding_append_of_quadBytes hr hs] at h
    rcases List.mem_append.1 h with h | h
    · exact List.mem_append_left s (mem_of_mem_trimStretch h)
    · exact List.mem_append_right r (ih h)

/-- Only digits and dots can get lost. -/
theorem mem_withoutPadding_of_mem (h : b ∈ s) (hb : isQuadByte b = false) :
    b ∈ withoutPadding s := by
  obtain ⟨u, v, rfl⟩ := List.append_of_mem h
  rw [withoutPadding_append_cons hb]
  simp

/-- Something is left of every text. -/
theorem withoutPadding_eq_nil_iff : withoutPadding s = [] ↔ s = [] := by
  refine ⟨fun h ↦ ?_, fun h ↦ by rw [h, withoutPadding_nil]⟩
  induction s using induction_stretches isQuadByte with
  | nil => rfl
  | other b s hb _ =>
    rw [withoutPadding_cons hb] at h
    cases h
  | stretch r s hne hr hs _ =>
    rw [withoutPadding_append_of_quadBytes hr hs, List.append_eq_nil_iff] at h
    exact absurd h.1 (trimStretch_ne_nil hne)

/-- A byte that is neither a digit nor a dot stood in the text before, with the same around it. -/
theorem exists_of_withoutPadding_eq (hb : isQuadByte b = false)
    (h : withoutPadding s = t ++ b :: u) :
    ∃ v w, s = v ++ b :: w ∧ withoutPadding v = t ∧ withoutPadding w = u := by
  induction s using induction_stretches isQuadByte generalizing t with
  | nil => exact absurd h (by simp)
  | other c s hc ih =>
    rw [withoutPadding_cons hc] at h
    cases t with
    | nil =>
      obtain ⟨rfl, rfl⟩ := List.cons.inj h
      exact ⟨[], s, rfl, rfl, rfl⟩
    | cons c' t =>
      obtain ⟨rfl, htail⟩ := List.cons.inj h
      obtain ⟨v, w, rfl, rfl, rfl⟩ := ih htail
      exact ⟨c :: v, w, rfl, withoutPadding_cons hc v, rfl⟩
  | stretch r s hne hr hs ih =>
    rw [withoutPadding_append_of_quadBytes hr hs] at h
    -- `b` is no byte of the stretch, so the whole stretch stands in front of it
    have hmem : b ∉ trimStretch r := fun hmem ↦ by
      rw [hr b (mem_of_mem_trimStretch hmem)] at hb
      cases hb
    obtain ⟨t', rfl, h'⟩ : ∃ t', t = trimStretch r ++ t' ∧ withoutPadding s = t' ++ b :: u := by
      rcases List.append_eq_append_iff.1 h with ⟨t', rfl, h'⟩ | ⟨c, hc, h'⟩
      · exact ⟨t', rfl, h'⟩
      · cases c with
        | nil => exact ⟨[], by simpa using hc.symm, h'.symm⟩
        | cons x c =>
          obtain ⟨rfl, -⟩ := List.cons.inj h'
          exact absurd (hc ▸ by simp) hmem
    obtain ⟨v, w, rfl, rfl, rfl⟩ := ih h'
    have hv : Clear v := by
      intro x hx
      refine hs x ?_
      rw [List.head?_append, hx]
      rfl
    exact ⟨r ++ v, w, (List.append_assoc r v _).symm, withoutPadding_append_of_quadBytes hr hv, rfl⟩

/-- What stands in front and is neither a digit nor a dot stood there before. -/
theorem head?_eq_of_withoutPadding (hb : isQuadByte b = false)
    (h : (withoutPadding s).head? = some b) : s.head? = some b := by
  obtain ⟨u, hu⟩ := List.head?_eq_some_iff.1 h
  obtain ⟨v, w, rfl, hv, -⟩ := exists_of_withoutPadding_eq (t := []) hb hu
  rw [withoutPadding_eq_nil_iff.1 hv, List.nil_append, List.head?_cons]

/-- What stands last and is neither a digit nor a dot stood there before. -/
theorem getLast?_eq_of_withoutPadding (hb : isQuadByte b = false)
    (h : (withoutPadding s).getLast? = some b) : s.getLast? = some b := by
  obtain ⟨t, ht⟩ := List.getLast?_eq_some_iff.1 h
  obtain ⟨v, w, rfl, -, hw⟩ := exists_of_withoutPadding_eq hb ht
  rw [withoutPadding_eq_nil_iff.1 hw, List.getLast?_concat]

/-! ### The text behind the bytes -/

/-- Digits and dots are in ASCII. -/
theorem lt_of_isQuadByte (h : isQuadByte b) : b < 0x80 := by
  rw [isQuadByte, Bool.or_eq_true] at h
  rcases h with h | h
  · rw [isDigit, Bool.and_eq_true, decide_eq_true_eq, decide_eq_true_eq] at h
    exact UInt8.lt_of_le_of_lt h.2 (by decide)
  · rw [beq_iff_eq] at h
    subst h
    decide

/-- A character whose bytes hold a digit or a dot is one. -/
theorem utf8EncodeChar_of_quadByte {c : Char} (h : (String.utf8EncodeChar c).any isQuadByte) :
    c.toNat < 0x80 ∧ String.utf8EncodeChar c = [byte c] ∧ isQuadByte (byte c) := by
  by_cases hc : c.toNat < 0x80
  · rw [Text.utf8EncodeChar_of_lt hc] at h
    exact ⟨hc, Text.utf8EncodeChar_of_lt hc, by simpa using h⟩
  · -- no byte outside ASCII is a digit or a dot
    obtain ⟨b, hb, hquad⟩ := List.any_eq_true.1 h
    have hle := Text.le_of_mem_utf8EncodeChar (Nat.le_of_not_lt hc) hb
    exact absurd (lt_of_isQuadByte hquad) (UInt8.not_lt.2 hle)

/-- The canonical text of an address is ASCII. -/
theorem toNat_lt_of_mem_text {c : Char} (h : c ∈ ip.text.toList) : c.toNat < 0x80 := by
  have hdot : '.'.toNat < 0x80 := by decide
  rw [text, String.toList_ofList] at h
  simp only [List.mem_append, List.mem_cons] at h
  rcases h with ((h | rfl | h) | rfl | h) | rfl | h
  · exact toNat_lt_of_mem_octetText h
  · exact hdot
  · exact toNat_lt_of_mem_octetText h
  · exact hdot
  · exact toNat_lt_of_mem_octetText h
  · exact hdot
  · exact toNat_lt_of_mem_octetText h

/-- The bytes without padding are those of a text, and no character outside ASCII is new in it. -/
theorem exists_utf8_eq_withoutPadding (s : String) :
    ∃ t : String, Text.utf8 t = withoutPadding (Text.utf8 s) ∧
      ∀ c ∈ t.toList, c ∈ s.toList ∨ c.toNat < 0x80 := by
  suffices h : ∀ cs : List Char, ∃ ds : List Char,
      ds.flatMap String.utf8EncodeChar = withoutPadding (cs.flatMap String.utf8EncodeChar) ∧
        ∀ c ∈ ds, c ∈ cs ∨ c.toNat < 0x80 by
    obtain ⟨ds, hds, hmem⟩ := h s.toList
    exact ⟨String.ofList ds, (Text.utf8_ofList ds).trans hds, by rwa [String.toList_ofList]⟩
  -- along the characters: a stretch of digits and dots is the same among characters and bytes
  intro cs
  induction cs using induction_stretches fun c ↦ (String.utf8EncodeChar c).any isQuadByte with
  | nil => exact ⟨[], rfl, by simp⟩
  | other c cs hc ih =>
    obtain ⟨ds, hds, hmem⟩ := ih
    have hbytes : ∀ b ∈ String.utf8EncodeChar c, isQuadByte b = false := by simpa using hc
    refine ⟨c :: ds, ?_, List.forall_mem_cons.2 ⟨.inl List.mem_cons_self, fun d hd ↦ ?_⟩⟩
    · rw [List.flatMap_cons, List.flatMap_cons, withoutPadding_append_of_not_quadBytes hbytes, hds]
    · exact (hmem d hd).imp_left (List.mem_cons_of_mem c)
  | stretch r cs _ hr hcs ih =>
    obtain ⟨ds, hds, hmem⟩ := ih
    have hquad : ∀ b ∈ r.flatMap String.utf8EncodeChar, isQuadByte b := by
      intro b hb
      obtain ⟨c, hc, hbc⟩ := List.mem_flatMap.1 hb
      obtain ⟨-, henc, hbyte⟩ := utf8EncodeChar_of_quadByte (hr c hc)
      rw [henc, List.mem_singleton] at hbc
      exact hbc ▸ hbyte
    have hclear : Clear (cs.flatMap String.utf8EncodeChar) := by
      cases cs with
      | nil => exact clear_nil
      | cons c cs =>
        rw [List.flatMap_cons]
        refine Clear.append (fun x hx ↦ ?_) String.utf8EncodeChar_ne_nil
        have hc : (String.utf8EncodeChar c).any isQuadByte = false := hcs c rfl
        simp only [List.any_eq_false, Bool.not_eq_true] at hc
        exact hc x (List.mem_of_mem_head? hx)
    rw [List.flatMap_append, withoutPadding_append_of_quadBytes hquad hclear, ← hds]
    have hmem' : ∀ c ∈ ds, c ∈ r ++ cs ∨ c.toNat < 0x80 := fun c hc ↦
      (hmem c hc).imp_left (List.mem_append_right r)
    cases hlit : literal? (r.flatMap String.utf8EncodeChar) with
    | none =>
      refine ⟨r ++ ds, ?_, List.forall_mem_append.2 ⟨?_, hmem'⟩⟩
      · rw [trimStretch_of_eq_none hlit, List.flatMap_append]
      · exact fun c hc ↦ .inl (List.mem_append_left cs hc)
    | some ip =>
      refine ⟨ip.text.toList ++ ds, ?_, List.forall_mem_append.2 ⟨?_, hmem'⟩⟩
      · rw [trimStretch_of_literal? hlit, List.flatMap_append]
        rfl
      · exact fun c hc ↦ .inr (toNat_lt_of_mem_text hc)

end AccessPoint.Zeros.Plain

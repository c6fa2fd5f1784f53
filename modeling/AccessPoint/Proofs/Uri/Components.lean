import AccessPoint.Proofs.Address.Ipv6
import AccessPoint.Proofs.Uri.Longest

/-!
# Components are matched as far as they go

Each recogniser of a component of a URI reference answers the longest prefix that the grammar
derives for that component. What makes the greedy cuts right is that a component never holds the
byte that opens the next one: a scheme no colon, user information no `@`, an authority no slash, a
path no question mark. The brackets of an IPv6 address do it for the choice between the two kinds of
authority: a registered name holds none, so it never reaches as far as a bracketed address that was
found.

A network path looks beyond what it matches: two slashes with nothing behind them are refused. The
statements about components that may begin with two slashes are therefore about bytes other than
these two (`s ≠ slashes`).

The module is ordered as the grammar is, from runs to hierarchical paths, and each component has up
to three lemmas: what its recogniser answers (`isLongest_*`), which bytes its words avoid
(`avoids_*`), and with which byte they begin or end where later components need it. The first is
found by the lemmas of `Recogniser.IsLongest` from the others; only two arguments are made by hand.

* A run is no combination of smaller recognisers, since it goes over escapes of three bytes in one
  recursion. Its lemmas follow the six cases of that recursion
  (`eq_false_of_mem_head?_drop_runLength`).
* The two choices, between kinds of authority and between kinds of path, compare words of different
  components at the head of the same bytes. `length_lt_of_avoids` settles the first, as the bracket
  stands among the bytes that were matched; for the second, a network path shows two slashes, and
  these bar the absolute path.
-/

namespace AccessPoint.Uri

open Ascii Recogniser Grammar

variable {s t : List UInt8} {n : Nat} {m : UInt8} {k : Char} {c d : List UInt8 → Prop}
  {p : UInt8 → Bool} {q : Recogniser}

/-! ### Runs and marks -/

/-- A run is the longest one if the percent sign is not in its class: then it stands for an escape
only. -/
theorem isLongest_run (hp : p (byte '%') = false) : IsLongest (IsRun p) (run p) s where
  le_length h := by
    obtain rfl := Except.ok.inj h
    exact runLength_le_length p s
  mem h := by
    obtain rfl := Except.ok.inj h
    exact isRun_take_runLength p s
  length_le h _ ht hts := by
    obtain rfl := Except.ok.inj h
    exact ht.length_le hp hts
  none_of_error h := by cases h

theorem run_ne_error {f : Failure} : run p s ≠ .error f := nofun

theorem run1_eq_ok_iff : run1 p s = .ok n ↔ runLength p s ≠ 0 ∧ n = runLength p s := by
  by_cases h : runLength p s = 0 <;> simp [run1, h, eq_comm (a := n)]

theorem run1_eq_error_iff {f : Failure} :
    run1 p s = .error f ↔ runLength p s = 0 ∧ f = ⟨.run, 0⟩ := by
  by_cases h : runLength p s = 0 <;> simp [run1, h, eq_comm (a := f)]

/-- A run stops in front of a byte that is not in the class. -/
theorem eq_false_of_mem_head?_drop_runLength {b : UInt8}
    (hb : b ∈ (s.drop (runLength p s)).head?) : p b = false := by
  fun_induction runLength p s with
  | case1 a h l s ha ih => exact ih hb
  | case2 a h l s _ he ih => exact ih hb
  | case3 a h l s ha _ =>
    obtain rfl := Option.some.inj hb
    simpa using ha
  | case4 a s _ ha ih => exact ih hb
  | case5 a s _ ha =>
    obtain rfl := Option.some.inj hb
    simpa using ha
  | case6 => cases hb

/-- The same for a run that must not be empty. -/
theorem isLongest_run1 (hp : p (byte '%') = false) :
    IsLongest (fun t ↦ t ≠ [] ∧ IsRun p t) (run1 p) s where
  le_length h := by
    obtain ⟨-, rfl⟩ := run1_eq_ok_iff.1 h
    exact runLength_le_length p s
  mem h := by
    obtain ⟨hne, rfl⟩ := run1_eq_ok_iff.1 h
    refine ⟨fun h0 ↦ hne ?_, isRun_take_runLength p s⟩
    have := congrArg List.length h0
    rw [List.length_take, Nat.min_eq_left (runLength_le_length p s)] at this
    exact this
  length_le h _ ht hts := by
    obtain ⟨-, rfl⟩ := run1_eq_ok_iff.1 h
    exact ht.2.length_le hp hts
  none_of_error h t ht hts := by
    have hle := ht.2.length_le hp hts
    have h0 : runLength p s = 0 := by
      by_contra hne
      simp [run1, hne] at h
    rw [h0] at hle
    exact ht.1 (List.length_eq_zero_iff.1 (Nat.le_zero.1 hle))

/-- A component behind a mark, which is told by its first byte. -/
theorem isLongest_marked (hq : ∀ t, s = byte k :: t → IsLongest c q t) :
    IsLongest (Marked k c) ((mark k).andThen q) s := by
  have hseq : IsLongest (Seq (fun t ↦ t = [byte k]) c) ((mark k).andThen q) s := by
    refine isLongest_literal.andThen (.of_closes closes_singleton) fun {n} hn ↦ ?_
    obtain ⟨⟨r, rfl⟩, rfl⟩ := literal_eq_ok_iff.1 hn
    exact hq r rfl
  refine hseq.congr fun t ↦ ⟨?_, ?_⟩
  · intro h
    obtain ⟨_, u, rfl, rfl, hu⟩ := h
    exact ⟨u, rfl, hu⟩
  · intro h
    obtain ⟨u, rfl, hu⟩ := h
    exact ⟨[byte k], u, rfl, rfl, hu⟩

/-- A word without a byte that stands among the first `n` ends before it. -/
theorem length_lt_of_avoids (hd : Avoids m d) (hm : m ∈ s.take n) (ht : d t) (hts : t <+: s) :
    t.length < n := by
  -- a longer word would hold all of the first `n` bytes
  by_contra hle
  have hpre : s.take n <+: t :=
    List.prefix_of_prefix_length_le (List.take_prefix n s) hts (by rw [List.length_take]; omega)
  exact hd ht (hpre.subset hm)

/-- Two words at the head of the same bytes begin with the same byte. -/
theorem head_eq_of_isPrefix {a b : UInt8} {u v : List UInt8} (hu : a :: u <+: s)
    (hv : b :: v <+: s) : a = b := by
  obtain ⟨r, rfl⟩ := hu
  exact (List.cons_prefix_cons.1 hv).1.symm

/-- The first byte of a run is in the class or a percent sign. -/
theorem isRun_head {b : UInt8} (h : IsRun p (b :: t)) : p b ∨ b = byte '%' := by
  cases h with
  | byte hb _ => exact .inl hb
  | escape => exact .inr rfl

/-! ### Schemes and paths -/

/-- Schemes: where the letter is one byte, nothing in front of the rest can be longer. -/
theorem isLongest_scheme : IsLongest Scheme scheme s := by
  have hsep : Separated (fun t ↦ ∃ b, t = [b] ∧ isAlpha b) (All isScheme) := by
    intro t u v b hw hw'
    obtain ⟨a, rfl, -⟩ := hw
    obtain ⟨a', h, -⟩ := hw'
    simp at h
  refine (isLongest_single.andThen hsep fun _ ↦ isLongest_many).congr fun t ↦ ⟨?_, ?_⟩
  · intro h
    obtain ⟨_, u, rfl, ⟨b, rfl, hb⟩, hu⟩ := h
    exact ⟨b, u, rfl, hb, hu⟩
  · intro h
    obtain ⟨b, u, rfl, hb, hu⟩ := h
    exact ⟨[b], u, rfl, ⟨b, rfl, hb⟩, hu⟩

/-- Absolute paths are marked by their slash. -/
theorem isLongest_absPath : IsLongest AbsPath absPath s :=
  isLongest_marked fun _ _ ↦ isLongest_run (by decide)

/-- A first segment has no slash, so the path behind it is cut where it begins. -/
theorem isLongest_relPath : IsLongest RelPath relPath s := by
  refine (isLongest_run1 (by decide)).andThen (.of_avoids (m := byte '/') ?_ opens_marked.absent)
    fun _ ↦ isLongest_absPath.optional
  exact (avoids_isRun (by decide)).mono fun _ h ↦ h.2

/-! ### Authorities -/

/-- Everything that an IPv6 text is written with is in the class that is scanned for one. -/
theorem isIpv6Byte_of_isText (ht : Ipv6.isText t) : All isIpv6Byte t := by
  intro b hb
  rcases Ipv6.eq_or_mem_splitOn (byte ':') hb with rfl | ⟨field, hf, hbf⟩
  · decide
  rcases Ipv6.isField_of_isText ht field hf with rfl | hg | hd
  · cases hbf
  · simp only [Ipv6.isGroup, Bool.and_eq_true, List.all_eq_true] at hg
    simp [isIpv6Byte, hg.1.1 b hbf]
  · rcases Ipv6.eq_or_mem_splitOn (byte '.') hbf with rfl | ⟨octet, ho, hbo⟩
    · decide
    · simp only [Ipv6.isDotted, Bool.and_eq_true, List.all_eq_true] at hd
      have hoct := hd.2 octet ho
      simp only [Ipv6.isPlainOctet, Bool.and_eq_true, List.all_eq_true] at hoct
      simp [isIpv6Byte, isHex, hoct.1.1.1.1 b hbo]

/-- An IPv6 text has no byte outside that class. -/
theorem avoids_isText (h : isIpv6Byte m = false) : Avoids m fun t ↦ Ipv6.isText t :=
  (avoids_all h).mono fun _ ↦ isIpv6Byte_of_isText

/-- A zone has only its percent sign and bytes of its class. -/
theorem avoids_zone (h : isZone m = false) (hm : m ≠ byte '%') : Avoids m Zone :=
  .marked hm ((avoids_all h).mono fun _ ht ↦ ht.2)

theorem isLongest_zone : IsLongest Zone zone s :=
  isLongest_marked fun _ _ ↦ isLongest_many1

/-- **Bracketed addresses.** The address itself is not matched greedily, as a shorter stretch may be
one too; the bytes in front of a zone or of the bracket are all it can be. -/
theorem isLongest_ipv6Reference : IsLongest Ipv6Reference ipv6Reference s := by
  refine isLongest_marked fun t _ ↦ IsLongest.denoting_andThen
    (fun t ht ↦ ⟨Ipv6.ne_nil_of_isText ht, isIpv6Byte_of_isText ht⟩) ?_ ?_ fun _ ↦
      isLongest_zone.optional.andThen (.of_avoids (m := byte ']')
        (avoids_zone (by decide) (by decide)).absent opens_singleton) fun _ ↦ isLongest_literal
  · intro hw
    obtain ⟨t, u, h, -, rfl⟩ := hw
    simp at h
  · intro b v hw
    obtain ⟨t, u, h, rfl | ⟨z, rfl, -⟩, rfl⟩ := hw
    · obtain rfl := (List.cons.inj h).1
      decide
    · obtain rfl := (List.cons.inj h).1
      decide

/-- An IPv6 reference ends at its closing bracket, so a port may be looked for behind it. -/
theorem closes_ipv6Reference : Closes (byte ']') Ipv6Reference :=
  .marked (by decide) <| .seq (avoids_isText (by decide)) <|
    .seq (avoids_zone (by decide) (by decide)).absent closes_singleton

theorem isLongest_portPart : IsLongest PortPart portPart s :=
  isLongest_marked fun _ _ ↦ isLongest_many

/-- User information holds no `@`, so it is cut at the first one. -/
theorem isLongest_userPart : IsLongest UserPart userPart s :=
  (isLongest_run (by decide)).andThen
    (.of_avoids (avoids_isRun (by decide)) opens_singleton)
    fun _ ↦ isLongest_literal

/-- User information avoids what its runs avoid, the `@` apart. -/
theorem avoids_userPart (h : isRunByte isUserinfo m = false) (hm : m ≠ byte '@') :
    Avoids m UserPart :=
  (avoids_isRun h).seq (avoids_singleton hm)

/-- A server with a bracketed address: user information holds no bracket, and the address ends with
one. -/
theorem isLongest_literalServer :
    IsLongest (Seq (Absent UserPart) (Seq Ipv6Reference (Absent PortPart))) literalServer s :=
  isLongest_userPart.optional.andThen
    (.of_avoids (m := byte '[')
      (avoids_userPart (by decide) (by decide)).absent opens_marked_seq)
    fun _ ↦ isLongest_ipv6Reference.andThen (.of_closes closes_ipv6Reference)
      fun _ ↦ isLongest_portPart.optional

theorem mem_of_literalServer (h : Seq (Absent UserPart) (Seq Ipv6Reference (Absent PortPart)) t) :
    byte '[' ∈ t := by
  obtain ⟨u, _, rfl, -, _, v, rfl, ⟨w, rfl, -⟩, -⟩ := h
  simp

/-- The authority that is matched is the longest one: a registered name never reaches beyond the
bracket of an address that was found. -/
theorem isLongest_authority : IsLongest Authority authority s := by
  refine isLongest_literalServer.orElse (fun _ ↦ isLongest_run (by decide)) fun hn _ ht hts ↦ ?_
  exact (length_lt_of_avoids (avoids_isRun (by decide))
    (mem_of_literalServer (isLongest_literalServer.mem hn)) ht hts).le

/-- A byte that no part of an authority is written with is in no authority. -/
theorem avoids_authority (hu : isRunByte isUserinfo m = false) (hr : isRunByte isRegName m = false)
    (hi : isIpv6Byte m = false) (hz : isZone m = false)
    (hm : oneOf ['@', '%', '[', ']', ':'] m = false) (hd : isDigit m = false) :
    Avoids m Authority := by
  simp only [oneOf, List.any_cons, List.any_nil, Bool.or_false, Bool.or_eq_false_iff,
    beq_eq_false_iff_ne, ne_eq] at hm
  obtain ⟨h1, h2, h3, h4, h5⟩ := hm
  refine .or (.seq (avoids_userPart hu (Ne.symm h1)).absent (.seq (.marked ?_ ?_) ?_))
    (avoids_isRun hr)
  · exact Ne.symm h3
  · exact (avoids_isText hi).seq ((avoids_zone hz (Ne.symm h2)).absent.seq
      (avoids_singleton (Ne.symm h4)))
  · exact (Avoids.marked (Ne.symm h5) (avoids_all hd)).absent

/-! ### Network and hierarchical paths -/

/-- Beyond two slashes alone, a network path is what the combinators make of it. -/
theorem netPath_eq_of_ne (hs : s ≠ slashes) :
    netPath s = (literal slashes).andThen (authority.andThen absPath.optional) s := by
  rw [netPath, if_neg hs]

/-- An authority has no slash, so the path behind it is cut where it begins. -/
theorem isLongest_netPath (hs : s ≠ slashes) : IsLongest NetPath netPath s := by
  have hsep : Separated Authority (Absent AbsPath) := by
    refine .of_avoids (m := byte '/') ?_ opens_marked.absent
    apply avoids_authority <;> decide
  have hseq : IsLongest (Seq (fun t ↦ t = slashes) (Seq Authority (Absent AbsPath)))
      ((literal slashes).andThen (authority.andThen absPath.optional)) s := by
    refine isLongest_literal.andThen ?_ fun _ ↦ isLongest_authority.andThen hsep
      fun _ ↦ isLongest_absPath.optional
    rintro t u v b rfl h
    exact absurd h (by simp [slashes])
  refine (hseq.of_eq (netPath_eq_of_ne hs)).congr fun t ↦ ⟨?_, ?_⟩
  · intro h
    obtain ⟨_, u, rfl, rfl, hu⟩ := h
    exact ⟨_, rfl, u, rfl, hu⟩
  · intro h
    obtain ⟨_, rfl, u, rfl, hu⟩ := h
    exact ⟨slashes, u, rfl, rfl, hu⟩

theorem slashes_prefix_of_netPath (h : NetPath t) : slashes <+: t := by
  obtain ⟨_, rfl, u, rfl, -⟩ := h
  exact ⟨u, rfl⟩

/-- Two slashes begin a network path, if only one with an empty authority. -/
theorem netPath_slashes : NetPath slashes :=
  ⟨_, rfl, [], rfl, [], [], rfl, .inr .nil, .inl rfl⟩

/-- **The two kinds of hierarchical path.** Where a network path is found, an absolute path could
only be the first slash of it. -/
theorem isLongest_hierPath (hs : s ≠ slashes) : IsLongest HierPath hierPath s := by
  refine (isLongest_netPath hs).orElse (fun {f} hf ↦ isLongest_absPath.barring fun h ↦ ?_)
    fun {n} hn t ht hts ↦ ?_
  · exact (isLongest_netPath hs).none_of_error hf netPath_slashes h
  -- an absolute path beside a network path stops at the first slash
  have hnet := slashes_prefix_of_netPath ((isLongest_netPath hs).mem hn)
  have htwo : 2 ≤ n := by
    have := hnet.length_le
    rw [List.length_take] at this
    exact Nat.le_trans this (Nat.min_le_left _ _)
  by_contra hlt
  refine ht.2 (List.prefix_of_prefix_length_le (hnet.trans (List.take_prefix n s)) hts ?_)
  have : slashes.length = 2 := rfl
  omega

/-- A hierarchical path of either kind begins with a slash. -/
theorem slash_of_hierPath (h : HierPath t) : ∃ u, t = byte '/' :: u := by
  rcases h with ⟨u, rfl, -⟩ | ⟨⟨u, rfl, -⟩, -⟩
  · exact ⟨u, rfl⟩
  · exact ⟨u, rfl⟩

/-- An absolute path has neither a question mark nor a number sign. -/
theorem avoids_absPath (hm : m = byte '?' ∨ m = byte '#') : Avoids m AbsPath := by
  rcases hm with rfl | rfl
  · exact .marked (by decide) (avoids_isRun (by decide))
  · exact .marked (by decide) (avoids_isRun (by decide))

/-- Nor has a hierarchical path, whose authority has neither. -/
theorem avoids_hierPath (hm : m = byte '?' ∨ m = byte '#') : Avoids m HierPath := by
  have hauth : Avoids m Authority := by
    rcases hm with rfl | rfl
    · apply avoids_authority <;> decide
    · apply avoids_authority <;> decide
  have hslash : m ≠ byte '/' := by
    rcases hm with rfl | rfl
    · decide
    · decide
  refine .or (.marked hslash (.marked hslash (hauth.seq (avoids_absPath hm).absent))) ?_
  exact (avoids_absPath hm).mono fun _ h ↦ h.1

theorem avoids_relPath (hm : m = byte '?' ∨ m = byte '#') : Avoids m RelPath := by
  refine .seq (Avoids.mono (d := IsRun isRelSegment) ?_ fun _ h ↦ h.2) (avoids_absPath hm).absent
  rcases hm with rfl | rfl
  · exact avoids_isRun (by decide)
  · exact avoids_isRun (by decide)

end AccessPoint.Uri

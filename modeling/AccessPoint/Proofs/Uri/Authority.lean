import AccessPoint.Proofs.Uri.Failure

/-!
# The longest authority

An authority is a server with a bracketed address or a registered name, and is looked for in this
order. A server may begin with user information, which is given up where no `@` or no bracketed
address follows; then the bytes are read again as a registered name, whose bytes are others. The
order costs nothing, since the two kinds agree up to the bracket:

* user information and its `@` are part of a registered name (`isRun_isRegName_of_userPart`), so
  what is given up is read again;
* no registered name holds a bracket, so in front of a bracketed address it ends where the bracket
  stands (`runLength_isRegName_of_bracket`).

So the authority that is read is the longest prefix of either kind (`longest_authority_read`).

`IsLongestPrefix` says this of a number of bytes and a language, without a recogniser, and is an
equivalence where `IsLongest` has one direction for each outcome. The two are the same wherever a
prefix of the language exists (`IsLongest.eq_ok_iff`), and of an authority the empty prefix always
does. That the authority is right as a whole is known from its two alternatives already; what is new
here is what becomes of bytes that were read and given up, which no statement about the answer alone
can tell.
-/

namespace AccessPoint

open Ascii

namespace Recogniser

variable {c : List UInt8 → Prop} {p : Recogniser} {s : List UInt8} {n m : Nat}

/-- The longest prefix of `s` in `c` has `n` bytes. -/
structure IsLongestPrefix (c : List UInt8 → Prop) (s : List UInt8) (n : Nat) : Prop where
  le_length : n ≤ s.length
  mem : c (s.take n)
  length_le : ∀ t, t <+: s → c t → t.length ≤ n

/-- There is one longest prefix. -/
theorem IsLongestPrefix.le (hn : IsLongestPrefix c s n) (hm : IsLongestPrefix c s m) : n ≤ m := by
  have hle := hm.length_le _ (List.take_prefix n s) hn.mem
  rwa [List.length_take, Nat.min_eq_left hn.le_length] at hle

/-- Where there is a prefix to match, the answer is the length of the longest. -/
theorem IsLongest.eq_ok_iff (h : IsLongest c p s) : p s = .ok n ↔ IsLongestPrefix c s n := by
  constructor
  · intro hn
    exact ⟨h.le_length hn, h.mem hn, fun _ hts ht ↦ h.length_le hn ht hts⟩
  · intro hn
    obtain ⟨m, hm, -⟩ := h.exists_ok hn.mem (List.take_prefix n s)
    have hlongest : IsLongestPrefix c s m :=
      ⟨h.le_length hm, h.mem hm, fun _ hts ht ↦ h.length_le hm ht hts⟩
    rw [hm, Nat.le_antisymm (hlongest.le hn) (hn.le hlongest)]

end Recogniser

namespace Uri

open Recogniser Grammar

variable {s t u v : List UInt8} {n : Nat} {p q : UInt8 → Bool}

/-- A server with a bracketed address: optional user information, the address and an optional
port. -/
def Grammar.LiteralServer : List UInt8 → Prop :=
  Seq (Absent UserPart) (Seq Ipv6Reference (Absent PortPart))

/-! ### The two kinds up to the bracket -/

theorem IsRun.append (hs : IsRun p s) (ht : IsRun p t) : IsRun p (s ++ t) := by
  induction hs with
  | nil => exact ht
  | byte hb _ ih => exact .byte hb ih
  | escape hh hl _ ih => exact .escape hh hl ih

theorem IsRun.mono (hpq : ∀ b, p b → q b) (hs : IsRun p s) : IsRun q s := by
  induction hs with
  | nil => exact .nil
  | byte hb _ ih => exact .byte (hpq _ hb) ih
  | escape hh hl _ ih => exact .escape hh hl ih

/-- More marks, more bytes. -/
theorem oneOf_of_subset {cs ds : List Char} {b : UInt8} (h : cs ⊆ ds) (hb : oneOf cs b) :
    oneOf ds b := by
  obtain ⟨c, hc, hcb⟩ := List.any_eq_true.1 hb
  exact List.any_eq_true.2 ⟨c, h hc, hcb⟩

/-- A registered name may hold every byte of user information. -/
theorem isRegName_of_isUserinfo (b : UInt8) (h : isUserinfo b) : isRegName b := by
  rw [isUserinfo, Bool.or_eq_true] at h
  rw [isRegName, Bool.or_eq_true]
  exact h.imp_right (oneOf_of_subset (by decide))

/-- What is read as user information can be read as a registered name, its `@` included. -/
theorem isRun_isRegName_of_userPart (h : UserPart t) : IsRun isRegName t := by
  obtain ⟨u, _, rfl, hu, rfl⟩ := h
  exact (hu.mono isRegName_of_isUserinfo).append (.byte (by decide) .nil)

/-- In front of its bracket, a server is a registered name. -/
theorem exists_bracket_of_literalServer (h : LiteralServer t) :
    ∃ u v, t = u ++ byte '[' :: v ∧ IsRun isRegName u := by
  obtain ⟨u, _, rfl, hu, r, w, rfl, ⟨v, rfl, -⟩, -⟩ := h
  refine ⟨u, v ++ w, by rw [List.cons_append], ?_⟩
  rcases hu with rfl | hu
  · exact .nil
  · exact isRun_isRegName_of_userPart hu

/-- A registered name that goes up to a bracket goes no further. -/
theorem runLength_isRegName_of_bracket (hu : IsRun isRegName u) :
    runLength isRegName (u ++ byte '[' :: v) = u.length := by
  refine Nat.le_antisymm (Nat.le_of_lt_succ ?_) (hu.length_le (by decide) (List.prefix_append _ _))
  have hbracket : byte '[' ∈ (u ++ byte '[' :: v).take (u.length + 1) := by
    rw [List.take_length_add_append]
    exact List.mem_append_right _ List.mem_cons_self
  have hlt := length_lt_of_avoids (avoids_isRun (by decide)) hbracket
    (isRun_take_runLength isRegName _) (List.take_prefix _ _)
  rwa [List.length_take, Nat.min_eq_left (runLength_le_length _ _)] at hlt

/-! ### The authority that is read -/

/-- Where a server is found, a registered name would have ended at its bracket. -/
theorem regName_of_literalServer (h : literalServer s = .ok n) :
    ∃ k, regName s = .ok k ∧ k < n ∧ s[k]? = some (byte '[') := by
  obtain ⟨u, v, htake, hu⟩ := exists_bracket_of_literalServer (isLongest_literalServer.mem h)
  obtain ⟨r, hr⟩ := List.take_prefix n s
  have hs : s = u ++ byte '[' :: (v ++ r) := by
    rw [← hr, htake, List.append_assoc, List.cons_append]
  have hlen : (s.take n).length = u.length + 1 + v.length := by
    rw [htake, List.length_append, List.length_cons]
    omega
  refine ⟨u.length, ?_, ?_, ?_⟩
  · show Except.ok (runLength isRegName s) = _
    rw [hs, runLength_isRegName_of_bracket hu]
  · have hle := List.length_take_le n s
    omega
  · rw [hs, List.getElem?_append_right (Nat.le_refl _), Nat.sub_self]
    rfl

/-- A server that is found is the authority. -/
theorem authority_of_literalServer (h : literalServer s = .ok n) : authority s = .ok n :=
  orElse_eq_ok_iff.2 (.inl h)

/-- Where no server is found, the authority is a registered name. -/
theorem authority_of_not_literalServer {f : Failure} (h : literalServer s = .error f) :
    authority s = regName s := by
  rw [authority, orElse, h]

/-- **The longest authority is read, whichever kind it is of.** Some authority always is, if only
the empty one, and it is the longest prefix that is a server with a bracketed address or a
registered name.

Where a server is found, the registered name would have ended at its bracket, before the server
does. Where none is, there is none of any length, and the registered name that is read instead goes
at least as far as the user information that was given up. -/
theorem longest_authority_read (s : List UInt8) :
    (∃ n, authority s = .ok n) ∧
    (∀ n, authority s = .ok n ↔ IsLongestPrefix Authority s n) ∧
    (∀ n, literalServer s = .ok n → authority s = .ok n ∧
      ∃ k, regName s = .ok k ∧ k < n ∧ s[k]? = some (byte '[')) ∧
    (∀ f, literalServer s = .error f → authority s = regName s ∧
      (∀ t, t <+: s → ¬LiteralServer t) ∧
        ∃ k, regName s = .ok k ∧ ∀ m, userPart s = .ok m → m ≤ k) := by
  refine ⟨?_, fun n ↦ isLongest_authority.eq_ok_iff, fun n hn ↦ ?_, fun f hf ↦ ?_⟩
  · cases h : authority s with
    | ok n => exact ⟨n, rfl⟩
    | error f => exact absurd h authority_ne_error
  · exact ⟨authority_of_literalServer hn, regName_of_literalServer hn⟩
  · refine ⟨authority_of_not_literalServer hf,
      fun t hts ht ↦ isLongest_literalServer.none_of_error hf ht hts, _, rfl, fun m hm ↦ ?_⟩
    have huser := isRun_isRegName_of_userPart (isLongest_userPart.mem hm)
    have hle := huser.length_le (by decide) (List.take_prefix m s)
    rwa [List.length_take, Nat.min_eq_left (isLongest_userPart.le_length hm)] at hle

/-- User information that is given up for want of a closing bracket, and for a second `@`. -/
theorem longest_authority_read_given_up :
    authority (Text.utf8 "u@[::1]:80/") = .ok 10 ∧ authority (Text.utf8 "u@[::1/") = .ok 2 ∧
      authority (Text.utf8 "a@b@[::1]") = .ok 4 := by
  have hserver : literalServer (Text.utf8 "u@[::1]:80/") = .ok 10 := by decide +kernel
  have hopen : literalServer (Text.utf8 "u@[::1/") = .error ⟨.literal, 6⟩ := by decide +kernel
  have htwo : literalServer (Text.utf8 "a@b@[::1]") = .error ⟨.literal, 2⟩ := by decide +kernel
  refine ⟨?_, ?_, ?_⟩
  · exact ((longest_authority_read _).2.2.1 _ hserver).1
  · exact ((longest_authority_read _).2.2.2 _ hopen).1
  · exact ((longest_authority_read _).2.2.2 _ htwo).1

end Uri

end AccessPoint

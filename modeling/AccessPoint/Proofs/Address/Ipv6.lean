import AccessPoint.Address.Ipv6

/-!
# The fields of an IPv6 text

An IPv6 text, cut at its colons, falls into fields: groups of hexadecimal digits, an IPv4 address in
canonical form, and empty fields where the double colon stands (`isField_of_isText`). Facts about
such texts are facts about their fields; `induction_splitOn` is the induction that takes one to the
other.

The text itself is checked from the outside in: it is cut at its double colon first, then each of
the two stretches at its colons, and the groups of a stretch are counted. None of this counting
matters to those who ask what bytes an IPv6 text may hold, or whether its IPv4 part is padded. So
the way down is made once, and its three steps have one lemma each (`eq_of_splitDouble?`,
`isField_of_stretch?`, `isField_of_groupCount?`). That fields are told apart by one byte, which no
field holds, is why a cut of the whole text at single colons agrees with the cuts made on the way: a
double colon merely leaves an empty field.

Only this direction is needed. How many fields there must be, and where the IPv4 part may stand, is
left to the definition.
-/

namespace AccessPoint.Ipv6

open Ascii

variable {s field left right : List UInt8} {fields : List (List UInt8)} {dotted : Bool} {n : Nat}

/-- A list is free of the separator, or it is such a list, the separator and a shorter list. -/
theorem induction_splitOn {motive : List UInt8 → Prop} (sep : UInt8)
    (field : ∀ a, sep ∉ a → motive a) (cons : ∀ a s, sep ∉ a → motive s → motive (a ++ sep :: s))
    (s : List UInt8) : motive s := by
  induction h : s.length using Nat.strongRecOn generalizing s with
  | ind n ih =>
    by_cases hs : sep ∈ s
    · obtain ⟨a, t, rfl, ha⟩ := List.eq_append_cons_of_mem hs
      refine cons a t ha (ih t.length ?_ t rfl)
      simp only [← h, List.length_append, List.length_cons]
      omega
    · exact field s hs

/-- A byte of a list is the separator or stands in a field. -/
theorem eq_or_mem_splitOn (sep : UInt8) {b : UInt8} (h : b ∈ s) :
    b = sep ∨ ∃ field ∈ s.splitOn sep, b ∈ field := by
  induction s using induction_splitOn sep with
  | field a ha =>
    rw [List.splitOn_eq_singleton ha]
    exact .inr ⟨a, List.mem_singleton_self a, h⟩
  | cons a s ha ih =>
    rw [List.splitOn_append_cons_self_of_not_mem ha]
    rcases List.mem_append.1 h with hb | hb
    · exact .inr ⟨a, List.mem_cons_self, hb⟩
    · rcases List.mem_cons.1 hb with rfl | hb
      · exact .inl rfl
      · exact (ih hb).imp_right fun ⟨field, hf, hbf⟩ ↦ ⟨field, List.mem_cons_of_mem a hf, hbf⟩

/-- What may stand between colons. -/
def IsField (field : List UInt8) : Prop := field = [] ∨ isGroup field ∨ isDotted field

/-- Groups that can be counted are fields, the last of them possibly an IPv4 address. -/
theorem isField_of_groupCount? (h : groupCount? dotted fields = some n) :
    ∀ field ∈ fields, IsField field := by
  fun_induction groupCount? dotted fields generalizing n with
  | case1 => simp
  | case2 field hg => simpa using .inr (.inl hg)
  | case3 field _ hd =>
    simp only [Bool.and_eq_true] at hd
    simpa using .inr (.inr hd.2)
  | case4 => cases h
  | case5 field fields _ hg ih =>
    obtain ⟨m, hm, -⟩ := Option.map_eq_some_iff.1 h
    exact List.forall_mem_cons.2 ⟨.inr (.inl hg), ih hm⟩
  | case6 => cases h

/-- A stretch without a double colon falls into fields, or is empty. -/
theorem isField_of_stretch? (h : stretch? dotted s = some n) :
    ∀ field ∈ s.splitOn (byte ':'), IsField field := by
  by_cases hs : s = []
  · subst hs
    simp [IsField]
  · rw [stretch?, if_neg (by simpa using hs)] at h
    exact isField_of_groupCount? h

/-- The two parts of a text stand around its double colon. -/
theorem eq_of_splitDouble? (h : splitDouble? s = some (left, right)) :
    s = left ++ byte ':' :: byte ':' :: right := by
  fun_induction splitDouble? s generalizing left with
  | case1 b c s hbc =>
    obtain ⟨rfl, rfl⟩ := hbc
    obtain ⟨rfl, rfl⟩ := Prod.mk.inj (Option.some.inj h)
    rfl
  | case2 b c s _ ih =>
    obtain ⟨⟨left', right'⟩, h', he⟩ := Option.map_eq_some_iff.1 h
    obtain ⟨rfl, rfl⟩ := Prod.mk.inj he
    rw [ih h']
    rfl
  | case3 => cases h

/-- Every field of an IPv6 text is empty, a group or a canonical IPv4 address. -/
theorem isField_of_isText (h : isText s) : ∀ field ∈ s.splitOn (byte ':'), IsField field := by
  cases hd : splitDouble? s with
  | none =>
    simp only [isText, hd, beq_iff_eq] at h
    exact isField_of_stretch? h
  | some parts =>
    obtain ⟨left, right⟩ := parts
    cases hl : stretch? false left with
    | none => simp [isText, hd, hl] at h
    | some m =>
      cases hr : stretch? true right with
      | none => simp [isText, hd, hl, hr] at h
      | some n =>
        -- between the two colons there is one field more, the empty one
        rw [eq_of_splitDouble? hd, List.splitOn_append_cons_self,
          ← List.nil_append (byte ':' :: right), List.splitOn_append_cons_self]
        simp only [List.mem_append, List.splitOn_nil, List.mem_singleton]
        intro field h
        rcases h with hf | rfl | hf
        · exact isField_of_stretch? hl field hf
        · exact .inl rfl
        · exact isField_of_stretch? hr field hf

theorem ne_nil_of_isText (h : isText s) : s ≠ [] := by
  rintro rfl
  exact absurd h (by decide)

end AccessPoint.Ipv6

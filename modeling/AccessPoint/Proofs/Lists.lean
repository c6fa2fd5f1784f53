import Mathlib.Data.List.Forall2
import Mathlib.Data.List.Nodup

/-!
# Lists that are read and searched

Three ways in which data of this library is kept in lists, each with the lemma by which later
proofs use it.

* A list is *read* member by member, and fails as a whole where one member fails. This is how rows
  come from a document and fields from a JSON tree. `mapM_eq_some_iff` says it place by place, so
  that the length, the order and the members of what is read all follow from one statement.
* A list is *searched* for a key, as columns are by name and levels by rank. If no key occurs twice,
  a search finds exactly the member with the key (`find?_beq_eq_some_iff`); which member comes first
  no longer matters, and a proof that uses the search need not look at the list.
* A list of values is laid *beside* a list of keys. If no key occurs twice, what stands beside the
  key in some place is the value in the same place (`lookup_zip`).
-/

namespace AccessPoint

variable {α β : Type}

/-! ### Lists read member by member -/

section Reading

variable {f : α → Option β} {g : α → β} {a : α} {l : List α} {ys : List β}

/-- A list is read if each member is, in its place. -/
theorem mapM_eq_some_iff : l.mapM f = some ys ↔ List.Forall₂ (fun a y ↦ f a = some y) l ys := by
  induction l generalizing ys with
  | nil => simp [eq_comm]
  | cons a l ih =>
    simp only [List.mapM_cons, Option.pure_def, Option.bind_eq_bind, Option.bind_eq_some_iff,
      List.forall₂_cons_left_iff, ih]
    constructor
    · intro h
      obtain ⟨y, hy, zs, hzs, h⟩ := h
      exact ⟨y, zs, hy, hzs, (Option.some.inj h).symm⟩
    · intro h
      obtain ⟨y, zs, hy, hzs, rfl⟩ := h
      exact ⟨y, hy, zs, hzs, rfl⟩

/-- Where no member fails, reading is mapping. -/
theorem mapM_eq_some_map (h : ∀ a ∈ l, f a = some (g a)) : l.mapM f = some (l.map g) :=
  mapM_eq_some_iff.2 (List.forall₂_map_right_iff.2 (List.forall₂_same.2 h))

/-- What is read has a value for each member. -/
theorem exists_of_mapM_eq_some (h : l.mapM f = some ys) (ha : a ∈ l) : ∃ y, f a = some y := by
  obtain ⟨i, hi, rfl⟩ := List.getElem_of_mem ha
  obtain ⟨hlen, hget⟩ := List.forall₂_iff_get.1 (mapM_eq_some_iff.1 h)
  exact ⟨_, hget i hi (hlen ▸ hi)⟩

/-- A list with a member that cannot be read cannot be read. -/
theorem mapM_eq_none_of_mem (ha : a ∈ l) (h : f a = none) : l.mapM f = none := by
  rw [Option.eq_none_iff_forall_ne_some]
  intro ys hys
  obtain ⟨y, hy⟩ := exists_of_mapM_eq_some hys ha
  rw [h] at hy
  cases hy

end Reading

/-! ### Lists searched for a key -/

section Searching

variable [BEq β] [LawfulBEq β] {f : α → β} {a : α} {k : β} {l : List α}

/-- Where no key occurs twice, a search for a key finds the member that has it. -/
theorem find?_beq_eq_some_iff (hl : (l.map f).Nodup) :
    (l.find? fun b ↦ f b == k) = some a ↔ a ∈ l ∧ f a = k := by
  constructor
  · intro h
    exact ⟨List.mem_of_find?_eq_some h, by simpa using List.find?_some h⟩
  · rintro ⟨ha, rfl⟩
    have hsome : (l.find? fun b ↦ f b == f a).isSome :=
      List.find?_isSome.2 ⟨a, ha, beq_self_eq_true (f a)⟩
    obtain ⟨b, hb⟩ := Option.isSome_iff_exists.1 hsome
    have hkey : f b = f a := by simpa using List.find?_some hb
    rw [hb, List.inj_on_of_nodup_map hl (List.mem_of_find?_eq_some hb) ha hkey]

end Searching

/-! ### Values beside keys -/

/-- Where no key occurs twice, the value beside a key is the one in its place. -/
theorem lookup_zip [BEq α] [LawfulBEq α] {l : List α} (hl : l.Nodup) {a : α} {i : Nat}
    (h : l[i]? = some a) (vs : List β) : (l.zip vs).lookup a = vs[i]? := by
  induction l generalizing i vs with
  | nil => cases h
  | cons b l ih =>
    obtain ⟨hb, hl⟩ := List.nodup_cons.1 hl
    cases vs with
    | nil => rfl
    | cons v vs =>
      cases i with
      | zero =>
        obtain rfl := Option.some.inj h
        simp
      | succ i =>
        rw [List.getElem?_cons_succ] at h
        have hne : (a == b) = false := by
          rw [beq_eq_false_iff_ne]
          rintro rfl
          exact hb (List.mem_of_getElem? h)
        rw [List.zip_cons_cons, List.lookup_cons, hne, List.getElem?_cons_succ]
        exact ih hl h vs

end AccessPoint

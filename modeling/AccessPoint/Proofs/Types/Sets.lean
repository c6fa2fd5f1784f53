import AccessPoint.Proofs.Types
import Mathlib.Data.List.Forall2
import Mathlib.Data.List.Perm.Subperm

/-!
# Lists of types as sets

Whether a list of types serves a request depends on nothing but which trimmed entries it has
(`IsListing.serves_of_subset`). So neither their order matters, nor how often they occur, nor what
blanks stand around them, and further entries can only help (`serves_by_entries`). Reordering and
repeating are put together as one relation: `ts.Subperm us` with `us ⊆ ts` says that `us` has each
entry of `ts` at least as often, in any order, and no other.

The empty text is apart: it serves every request, although its one entry is empty. It is the join of
no entries or of an empty one (`join_eq_empty_iff`), and a list that is not empty does not become so
when entries are added to it (`IsListing.of_subperm`) or padded with blanks (`IsListing.pad`). Both
are needed before the sets may be compared at all: without them, a padded list could change from a
list that serves some requests to one that serves all.

A request with a comma in it, or with a blank at an end, is no trimmed entry of any list
(`IsListing.serves_iff_wildcard`). It is served through the wildcard only, whatever the list says.
-/

namespace AccessPoint.Types

open Text (isBlank)

variable {ts us vs : List String} {t u q : String}

/-! ### Entries that make up a list -/

/-- The empty text is written from no entries or from one empty entry, and from no others. -/
theorem join_eq_empty_iff (h : ∀ t ∈ ts, ',' ∉ t.toList) : join ts = "" ↔ ts = [] ∨ ts = [""] := by
  constructor
  · intro hempty
    rcases eq_or_ne ts [] with hts | hts
    · exact .inl hts
    · have hsplit := splitOn_toList_join hts h
      rw [hempty] at hsplit
      obtain ⟨t, rfl, ht⟩ := List.map_eq_singleton_iff.1 hsplit.symm
      exact .inr (by rw [String.toList_eq_nil_iff.1 ht])
  · rintro (rfl | rfl) <;> rfl

/-- Entries that a list of types can be written from: none has a comma in it, and the list is not
the empty text. -/
structure IsListing (ts : List String) : Prop where
  comma_not_mem : ∀ t ∈ ts, ',' ∉ t.toList
  join_ne_empty : join ts ≠ ""

/-- Padding each entry leaves the trimmed entries as they are. -/
theorem map_trim_eq_of_padsTo (h : List.Forall₂ PadsTo ts us) :
    us.map Text.trim = ts.map Text.trim := by
  induction h with
  | nil => rfl
  | cons h _ ih => rw [List.map_cons, List.map_cons, h.trim_eq, ih]

/-- Padded entries have no commas if the entries had none. -/
theorem comma_not_mem_of_padsTo (h : List.Forall₂ PadsTo ts us) (hts : ∀ t ∈ ts, ',' ∉ t.toList) :
    ∀ u ∈ us, ',' ∉ u.toList := by
  induction h with
  | nil => exact hts
  | cons h _ ih =>
    obtain ⟨ht, hts⟩ := List.forall_mem_cons.1 hts
    exact List.forall_mem_cons.2 ⟨h.comma_not_mem ht, ih hts⟩

namespace IsListing

/-- Entries may be added to a listing, anywhere and in any order. -/
theorem of_subperm (h : IsListing ts) (hsub : ts.Subperm us) (hcomma : ∀ u ∈ us, ',' ∉ u.toList) :
    IsListing us := by
  refine ⟨hcomma, fun hempty ↦ h.join_ne_empty ((join_eq_empty_iff h.comma_not_mem).2 ?_)⟩
  rcases (join_eq_empty_iff hcomma).1 hempty with rfl | rfl
  · exact .inl (List.subperm_nil.1 hsub)
  · exact List.subperm_singleton_iff.1 hsub

/-- The entries of a listing may be padded. -/
theorem pad (h : IsListing ts) (hpad : List.Forall₂ PadsTo ts us) : IsListing us := by
  have hcomma := comma_not_mem_of_padsTo hpad h.comma_not_mem
  refine ⟨hcomma, fun hempty ↦ h.join_ne_empty ((join_eq_empty_iff h.comma_not_mem).2 ?_)⟩
  rcases (join_eq_empty_iff hcomma).1 hempty with rfl | rfl
  · exact .inl (List.forall₂_nil_right_iff.1 hpad)
  · obtain ⟨t, ts, ht, hts, rfl⟩ := List.forall₂_cons_right_iff.1 hpad
    rw [ht.eq_empty, List.forall₂_nil_right_iff.1 hts]
    exact .inr rfl

/-! ### Which requests are served -/

theorem serves_iff (h : IsListing ts) :
    serves (some (join ts)) q ↔ ∃ t ∈ ts, Text.trim t = q ∨ Text.trim t = wildcard :=
  serves_join_iff h.join_ne_empty h.comma_not_mem

/-- A list serves what is served by one whose trimmed entries are among its own. -/
theorem serves_of_subset (hts : IsListing ts) (hus : IsListing us)
    (hsub : ts.map Text.trim ⊆ us.map Text.trim) (h : serves (some (join ts)) q) :
    serves (some (join us)) q := by
  obtain ⟨t, ht, hserves⟩ := hts.serves_iff.1 h
  obtain ⟨u, hu, htrim⟩ := List.mem_map.1 (hsub (List.mem_map_of_mem ht))
  rw [← htrim] at hserves
  exact hus.serves_iff.2 ⟨u, hu, hserves⟩

/-- Lists with the same trimmed entries serve the same requests. -/
theorem serves_eq (hts : IsListing ts) (hus : IsListing us)
    (hsub : ts.map Text.trim ⊆ us.map Text.trim) (hsup : us.map Text.trim ⊆ ts.map Text.trim) :
    serves (some (join us)) q = serves (some (join ts)) q :=
  Bool.eq_iff_iff.2 ⟨hus.serves_of_subset hts hsup, hts.serves_of_subset hus hsub⟩

/-- A request that no trimmed entry can be is served by the wildcard alone. -/
theorem serves_iff_wildcard (h : IsListing ts)
    (hq : ',' ∈ q.toList ∨ (∃ c ∈ q.toList.head?, isBlank c) ∨ ∃ c ∈ q.toList.getLast?, isBlank c) :
    serves (some (join ts)) q ↔ ∃ t ∈ ts, Text.trim t = wildcard := by
  have hne : ∀ t ∈ ts, Text.trim t ≠ q := by
    rintro t ht rfl
    rw [Text.trim, String.toList_ofList] at hq
    rcases hq with hcomma | ⟨c, hc, hblank⟩ | ⟨c, hc, hblank⟩
    · exact h.comma_not_mem t ht (Text.mem_of_mem_strip hcomma)
    · rw [Text.eq_false_of_mem_head?_strip hc] at hblank
      cases hblank
    · rw [Text.eq_false_of_mem_getLast?_strip hc] at hblank
      cases hblank
  rw [h.serves_iff]
  refine exists_congr fun t ↦ and_congr_right fun ht ↦ ?_
  exact or_iff_right (hne t ht)

end IsListing

/-- **A list of types is the set of its trimmed entries.** It serves a request exactly if one of
them is the requested type or the wildcard. So it serves the same requests when its entries are put
into another order, repeated and padded, and no fewer when further entries come to it; and a request
with a comma in it, or with a blank at an end, is served through the wildcard only. -/
theorem serves_by_entries (h : IsListing ts) :
    (∀ q, serves (some (join ts)) q ↔ ∃ t ∈ ts, Text.trim t = q ∨ Text.trim t = wildcard) ∧
      (∀ us vs, ts.Subperm us → us ⊆ ts → List.Forall₂ PadsTo us vs →
        ∀ q, serves (some (join vs)) q = serves (some (join ts)) q) ∧
      (∀ us, ts.Subperm us → (∀ u ∈ us, ',' ∉ u.toList) →
        ∀ q, serves (some (join ts)) q → serves (some (join us)) q) ∧
      ∀ q : String, ',' ∈ q.toList ∨ (∃ c ∈ q.toList.head?, isBlank c) ∨
          (∃ c ∈ q.toList.getLast?, isBlank c) →
        (serves (some (join ts)) q ↔ ∃ t ∈ ts, Text.trim t = wildcard) := by
  refine ⟨fun q ↦ h.serves_iff, fun us vs hsub hsup hpad q ↦ ?_, fun us hsub hcomma q ↦ ?_,
    fun q ↦ h.serves_iff_wildcard⟩
  · have hus : IsListing us := h.of_subperm hsub fun u hu ↦ h.comma_not_mem u (hsup hu)
    refine h.serves_eq (hus.pad hpad) ?_ ?_ <;> rw [map_trim_eq_of_padsTo hpad]
    · exact List.map_subset _ hsub.subset
    · exact List.map_subset _ hsup
  · exact h.serves_of_subset (h.of_subperm hsub hcomma) (List.map_subset _ hsub.subset)

/-- Two entries, one of them padded: put into the other order with that one twice and padded again,
followed by an empty entry and the wildcard, and asked for a type with a blank. -/
theorem serves_by_entries_padded_twice :
    let ts := ["default", "\tmms"]
    IsListing ts ∧ serves (some "default,\tmms") "mms" ∧
      serves (some "\tmms,default, \x00\tmms ") "mms" = serves (some "default,\tmms") "mms" ∧
      serves (some "default,\tmms,,*") "mms" ∧
      (serves (some "default,\tmms") "\tmms" ↔ ∃ t ∈ ts, Text.trim t = wildcard) := by
  intro ts
  have hts : IsListing ts := ⟨by decide, by decide⟩
  obtain ⟨hiff, hsame, hmore, hblank⟩ := serves_by_entries hts
  have hmms : serves (some (join ts)) "mms" := (hiff "mms").2 ⟨"\tmms", by decide, .inl rfl⟩
  have hsub : ts.Subperm ["\tmms", "default", "\tmms"] := by decide
  have hpad : List.Forall₂ PadsTo ["\tmms", "default", "\tmms"]
      ["\tmms", "default", " \x00\tmms "] :=
    .cons (.refl _) (.cons (.refl _)
      (.cons ⟨" \x00", " ", by simp [isBlank], by simp [isBlank], rfl⟩ .nil))
  have hadd : ts.Subperm (ts ++ ["", "*"]) := (List.sublist_append_left ts _).subperm
  exact ⟨hts, hmms, hsame _ _ hsub (by decide) hpad "mms", hmore _ hadd (by decide) "mms" hmms,
    hblank "\tmms" (.inr (.inl ⟨'\t', rfl, rfl⟩))⟩

end AccessPoint.Types

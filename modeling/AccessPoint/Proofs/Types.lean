import AccessPoint.Proofs.Text.Blank
import AccessPoint.Record.Types

/-!
# Entries in lists of types

The column of types holds a list such as "default,mms". It is written from its entries with commas
in between (`join`), and read back entry by entry, each without the blanks at its ends
(`entries_join`). The entries must be free of commas, which is the one thing that `join` cannot
carry.

So whether a list serves a request is settled by the trimmed entries: one of them must be the
requested type or the wildcard (`serves_join_iff`). The empty text is apart. It is the text of no
entries as well as of one empty entry, and it serves every request; each statement here says that
the list is not empty, and `join_ne_empty` gives a way to see it.

For one entry at a given place, with blanks around it, `Place.serves_fill_iff` parts what the other
entries do from what trimming makes of this one. This is the form in which a configured type and the
type in a row are compared: the other entries stay, the one at the place varies. A `Place` carries
the proofs that what stands around it is harmless, so that no statement needs to repeat them.
-/

namespace AccessPoint.Types

open Text (isBlank)

variable {ts : List String} {t u type requested : String}

/-- The list of types with the given entries. -/
def join (ts : List String) : String := ",".intercalate ts

/-- Split at its commas, the text of a list gives the entries back as they were written. -/
theorem splitOn_toList_join (hne : ts ≠ []) (h : ∀ t ∈ ts, ',' ∉ t.toList) :
    (join ts).toList.splitOn ',' = ts.map String.toList := by
  rw [join, String.toList_intercalate]
  refine List.splitOn_intercalate ',' ?_ ?_
  · simpa using h
  · simpa using hne

/-- Entries without a comma are read back, trimmed. -/
theorem entries_join (hne : ts ≠ []) (h : ∀ t ∈ ts, ',' ∉ t.toList) :
    entries (join ts) = ts.map Text.trim := by
  rw [entries, splitOn_toList_join hne h, List.map_map]
  rfl

/-- The list is empty only if it has no entry with something in it. -/
theorem join_ne_empty (h : ∀ t ∈ ts, ',' ∉ t.toList) (ht : t ∈ ts) (hne : t ≠ "") :
    join ts ≠ "" := by
  intro hempty
  have hts := splitOn_toList_join (List.ne_nil_of_mem ht) h
  rw [hempty] at hts
  have hmem : t.toList ∈ ts.map String.toList := List.mem_map_of_mem ht
  rw [← hts] at hmem
  exact hne (String.toList_eq_nil_iff.1 (List.mem_singleton.1 hmem))

/-- A list of types that is not empty serves a request exactly if one of its entries, trimmed, is
the requested type or the wildcard. -/
theorem serves_join_iff (hne : join ts ≠ "") (h : ∀ t ∈ ts, ',' ∉ t.toList) :
    serves (some (join ts)) requested ↔
      ∃ t ∈ ts, Text.trim t = requested ∨ Text.trim t = wildcard := by
  have hts : ts ≠ [] := by
    rintro rfl
    exact hne rfl
  rw [serves, entries_join hts h]
  simp [hne]

/-! ### One entry among others -/

/-- One text is the other with blanks around it. -/
def PadsTo (t u : String) : Prop :=
  ∃ left right : String, (∀ c ∈ left.toList, isBlank c) ∧ (∀ c ∈ right.toList, isBlank c) ∧
    u = left ++ t ++ right

theorem PadsTo.refl (t : String) : PadsTo t t := ⟨"", "", by simp, by simp, by simp⟩

/-- The blanks around a text are trimmed with those at its own ends. -/
theorem PadsTo.trim_eq (h : PadsTo t u) : Text.trim u = Text.trim t := by
  obtain ⟨left, right, hleft, hright, rfl⟩ := h
  exact Text.trim_append_append hleft hright

/-- Blanks are no commas, so padding brings none in. -/
theorem PadsTo.comma_not_mem (h : PadsTo t u) (ht : ',' ∉ t.toList) : ',' ∉ u.toList := by
  obtain ⟨left, right, hleft, hright, rfl⟩ := h
  have hcomma : ¬isBlank ',' := by decide
  rw [String.toList_append, String.toList_append]
  simp only [List.mem_append, not_or]
  exact ⟨⟨fun hl ↦ hcomma (hleft _ hl), ht⟩, fun hr ↦ hcomma (hright _ hr)⟩

theorem PadsTo.eq_empty (h : PadsTo t "") : t = "" := by
  obtain ⟨left, right, -, -, hu⟩ := h
  rw [eq_comm, String.append_eq_empty_iff, String.append_eq_empty_iff] at hu
  exact hu.1.2

/-- A place in a list of types: the entries before and after it, and the blanks that stand around
what is put there. -/
structure Place where
  before : List String
  after : List String
  left : String
  right : String
  comma_not_mem : ∀ t ∈ before ++ after, ',' ∉ t.toList
  isBlank_left : ∀ c ∈ left.toList, isBlank c
  isBlank_right : ∀ c ∈ right.toList, isBlank c

namespace Place

/-- The list of types in which the type stands at the place. -/
def fill (p : Place) (type : String) : String :=
  join (p.before ++ (p.left ++ type ++ p.right) :: p.after)

/-- The place in a list without other entries, and without blanks. -/
def alone : Place where
  before := []
  after := []
  left := ""
  right := ""
  comma_not_mem := by simp
  isBlank_left := by simp
  isBlank_right := by simp

variable (p : Place)

theorem padsTo (type : String) : PadsTo type (p.left ++ type ++ p.right) :=
  ⟨p.left, p.right, p.isBlank_left, p.isBlank_right, rfl⟩

/-- A list serves a request because of the type at the place or because of another entry. -/
theorem serves_fill_iff (hne : type ≠ "") (h : ',' ∉ type.toList) :
    serves (some (p.fill type)) requested ↔
      (∃ t ∈ p.before ++ p.after, Text.trim t = requested ∨ Text.trim t = wildcard) ∨
        Text.trim type = requested ∨ Text.trim type = wildcard := by
  have hcomma : ∀ t ∈ p.before ++ (p.left ++ type ++ p.right) :: p.after, ',' ∉ t.toList := by
    have hothers := List.forall_mem_append.1 p.comma_not_mem
    exact List.forall_mem_append.2
      ⟨hothers.1, List.forall_mem_cons.2 ⟨(p.padsTo type).comma_not_mem h, hothers.2⟩⟩
  have hfill : p.fill type ≠ "" := by
    refine join_ne_empty hcomma (List.mem_append_right _ List.mem_cons_self) ?_
    simp [hne]
  rw [fill, serves_join_iff hfill hcomma, ← (p.padsTo type).trim_eq]
  simp only [List.mem_append, List.mem_cons]
  constructor
  · rintro ⟨t, ht | rfl | ht, htrim⟩
    · exact .inl ⟨t, .inl ht, htrim⟩
    · exact .inr htrim
    · exact .inl ⟨t, .inr ht, htrim⟩
  · rintro (⟨t, ht, htrim⟩ | htrim)
    · exact ⟨t, ht.imp_right .inr, htrim⟩
    · exact ⟨_, .inr (.inl rfl), htrim⟩

end Place

end AccessPoint.Types

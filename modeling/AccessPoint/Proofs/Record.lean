import AccessPoint.Proofs.Record.Tables
import Mathlib.Data.List.Induction

/-!
# Filled records

A record may be filled in three ways, and each has a lemma that gives the value of every column:

* by pairs of a name and a value, of which the last for a column counts (`value_ofColumns`);
* by values in the order of the columns, where the value in the place of a column is that column's
  (`value_ofValues`);
* by reading one value for each column, which succeeds exactly if it does for every column
  (`map_ofValues_mapM_eq_some_iff`).

Names are taken to columns by `Column.label`, and that the tables of names lead there is the subject
of `Record.tables_agree`. Setting a value under a name is compared with this in one place
(`value_set`), and the values in order with the list of all columns in another.

JSON fills a record in the second way and the rows of a document in the third, and both are compared
with the first. Where the pairs come in an order that is not known, as from a table of a document,
`value_ofColumns_of_forall_mem` is the form to use: if the pairs give a column one value only, their
order does not count.
-/

namespace AccessPoint

namespace Column

theorem exists_getElem?_all (c : Column) : ∃ i : Nat, all[i]? = some c :=
  List.getElem?_of_mem c.mem_all

end Column

namespace Record

variable {c : Column} {r : Record} {i : Nat}

/-! ### Pairs of a name and a value -/

/-- What is set under the name of a column is the value of this column, and no other name touches
it. -/
theorem value_set (name v : String) (r : Record) (c : Column) :
    (r.set name v).value c = if name = c.label then some v else r.value c := by
  cases h : Column.ofName? name with
  | none =>
    have hne : name ≠ c.label := by
      rintro rfl
      rw [Column.ofName?_label] at h
      cases h
    rw [set, set?, h, if_neg hne]
    rfl
  | some d =>
    obtain rfl := Column.ofName?_eq_some_iff.1 h
    rw [set, set?_label, Option.getD_some, value_put]
    by_cases hd : c = d
    · rw [if_pos hd, if_pos (congrArg Column.label hd.symm)]
    · rw [if_neg hd, if_neg fun h ↦ hd (Column.label_injective h).symm]

/-- Of the pairs for a column the last counts. -/
theorem value_ofColumns (pairs : List (String × String)) (c : Column) :
    (ofColumns pairs).value c =
      ((pairs.filter fun p ↦ p.1 == c.label).getLast?).map Prod.snd := by
  induction pairs using List.reverseRecOn with
  | nil => rfl
  | append_singleton pairs p ih =>
    have hstep : ofColumns (pairs ++ [p]) = (ofColumns pairs).set p.1 p.2 := by
      rw [ofColumns, List.foldl_append]
      rfl
    rw [hstep, value_set, ih, List.filter_append]
    by_cases h : p.1 = c.label
    · simp [h]
    · simp [h]

/-- A record is filled with nothing but what the pairs give. -/
theorem mem_of_value_ofColumns {pairs : List (String × String)} {v : String}
    (h : (ofColumns pairs).value c = some v) : (c.label, v) ∈ pairs := by
  rw [value_ofColumns, Option.map_eq_some_iff] at h
  obtain ⟨p, hp, rfl⟩ := h
  obtain ⟨hmem, hname⟩ := List.mem_filter.1 (List.mem_of_getLast? hp)
  rwa [← beq_iff_eq.1 hname]

theorem not_mem_of_value_ofColumns {pairs : List (String × String)}
    (h : (ofColumns pairs).value c = none) : c.label ∉ pairs.map Prod.fst := by
  rw [value_ofColumns, Option.map_eq_none_iff, List.getLast?_eq_none_iff,
    List.filter_eq_nil_iff] at h
  intro hmem
  obtain ⟨p, hp, hname⟩ := List.mem_map.1 hmem
  exact h p hp (beq_iff_eq.2 hname)

/-- Pairs that give each column one value only may come in any order. -/
theorem value_ofColumns_of_forall_mem {pairs : List (String × String)} {v : Option String}
    (h : ∀ s, (c.label, s) ∈ pairs ↔ v = some s) : (ofColumns pairs).value c = v := by
  cases hv : (ofColumns pairs).value c with
  | none =>
    refine (Option.eq_none_iff_forall_ne_some.2 fun s hs ↦ ?_).symm
    exact not_mem_of_value_ofColumns hv (List.mem_map_of_mem ((h s).2 hs))
  | some s => exact ((h s).1 (mem_of_value_ofColumns hv)).symm

/-! ### Values in the order of the columns -/

/-- The value in the place of a column is the value of the column. -/
theorem value_ofValues (h : Column.all[i]? = some c) (vs : List (Option String)) :
    (ofValues vs).value c = vs[i]?.join := by
  show ((Column.all.zip vs).lookup c).join = vs[i]?.join
  rw [lookup_zip Column.nodup_all h]

/-- Values that are taken column by column come back to their columns. -/
theorem ofValues_map (g : Column → Option String) : ofValues (Column.all.map g) = ⟨g⟩ := by
  ext1
  funext c
  obtain ⟨i, hi⟩ := c.exists_getElem?_all
  rw [value_ofValues hi, List.getElem?_map, hi]
  rfl

/-- A record that is read column by column has the value that is read for each column. -/
theorem map_ofValues_mapM_eq_some_iff {f : Column → Option (Option String)} :
    (Column.all.mapM f).map ofValues = some r ↔ ∀ c, f c = some (r.value c) := by
  constructor
  · intro h c
    obtain ⟨vs, hvs, rfl⟩ := Option.map_eq_some_iff.1 h
    obtain ⟨i, hi⟩ := c.exists_getElem?_all
    obtain ⟨hlen, hget⟩ := List.forall₂_iff_get.1 (mapM_eq_some_iff.1 hvs)
    obtain ⟨hlt, rfl⟩ := List.getElem?_eq_some_iff.1 hi
    have hlt' : i < vs.length := hlen ▸ hlt
    rw [value_ofValues hi, List.getElem?_eq_getElem hlt', Option.join_some]
    exact hget i hlt hlt'
  · intro h
    rw [mapM_eq_some_map fun c _ ↦ h c, Option.map_some, ofValues_map]

end Record

end AccessPoint

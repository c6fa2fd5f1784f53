import AccessPoint.Proofs.Record

/-!
# Records as stores

A record is a store under the names of its seventeen columns (`columnNames`). What is set under a
name is found under it (`get_set_self`), and under no other name does anything change
(`get_set_of_ne`); a name that is no column's stores nothing and finds nothing (`set_of_not_mem`,
`get_of_not_mem`). So a record filled by pairs holds the last value given to each column
(`get_ofColumns`), and a record is filled again by its own columns, in whatever order they come
(`ofColumns_of_perm`).

Setting goes by the match of `Column.ofName?` and getting by a search in `Record.columns`. That the
two lead to the same column is no part of their definitions. It is taken from `Record.tables_agree`,
through `Record.set?_label` and `Record.get_label`: a name of a column is the label of exactly one
(`exists_label_eq`), and under a label both are at the same column. Everything here is stated over
`columnNames`, the names as they are reported, so that it can be read without the other tables.
-/

namespace AccessPoint.Record

variable {name other v : String} {r : Record} {pairs : List (String × String)} {c : Column}

/-! ### Names and columns -/

theorem label_mem_columnNames (c : Column) : c.label ∈ columnNames :=
  columnNames_eq ▸ List.mem_map_of_mem c.mem_all

theorem exists_label_eq (h : name ∈ columnNames) : ∃ c : Column, c.label = name := by
  rw [columnNames_eq] at h
  obtain ⟨c, -, hc⟩ := List.mem_map.1 h
  exact ⟨c, hc⟩

theorem ofName?_eq_none (h : name ∉ columnNames) : Column.ofName? name = none := by
  rw [Option.eq_none_iff_forall_ne_some]
  rintro c hc
  exact h (Column.ofName?_eq_some_iff.1 hc ▸ label_mem_columnNames c)

/-! ### Setting and getting -/

/-- Under a name that is no column's nothing is found. -/
theorem get_of_not_mem (h : name ∉ columnNames) (r : Record) : r.get name = none := by
  have hfind : r.columns.find? (fun p ↦ p.1 == name) = none := by
    rw [List.find?_eq_none, columns_eq_map, List.forall_mem_map]
    intro c _ hname
    exact h (beq_iff_eq.1 hname ▸ label_mem_columnNames c)
  rw [get, hfind, Option.bind_none]

/-- Only the name of a column can be set. -/
theorem set?_eq (name v : String) (r : Record) :
    r.set? name v = if name ∈ columnNames then some (r.set name v) else none := by
  by_cases h : name ∈ columnNames
  · obtain ⟨c, rfl⟩ := exists_label_eq h
    rw [if_pos h, set, set?_label, Option.getD_some]
  · rw [if_neg h, set?, ofName?_eq_none h, Option.map_none]

/-- Under a name that is no column's nothing is stored. -/
theorem set_of_not_mem (h : name ∉ columnNames) (v : String) (r : Record) : r.set name v = r := by
  rw [set, set?_eq, if_neg h, Option.getD_none]

/-- What is set is found. -/
theorem get_set_self (h : name ∈ columnNames) (v : String) (r : Record) :
    (r.set name v).get name = some v := by
  obtain ⟨c, rfl⟩ := exists_label_eq h
  rw [get_label, value_set, if_pos rfl]

/-- Setting a column leaves what is under every other name. -/
theorem get_set_of_ne (h : other ≠ name) (v : String) (r : Record) :
    (r.set name v).get other = r.get other := by
  by_cases hother : other ∈ columnNames
  · obtain ⟨c, rfl⟩ := exists_label_eq hother
    rw [get_label, get_label, value_set, if_neg h.symm]
  · rw [get_of_not_mem hother, get_of_not_mem hother]

/-- Every column is listed under its name with the value that is found there. -/
theorem columns_eq (r : Record) :
    r.columns = columnNames.map fun name ↦ (name, r.get name) := by
  rw [columns_eq_map, columnNames_eq, List.map_map]
  refine List.map_congr_left fun c _ ↦ ?_
  rw [Function.comp_apply, get_label]

/-! ### Filling -/

/-- Of the pairs with the name of a column, the last one counts. -/
theorem get_ofColumns (pairs : List (String × String)) (name : String) :
    (ofColumns pairs).get name =
      if name ∈ columnNames then ((pairs.filter fun p ↦ p.1 == name).getLast?).map Prod.snd
      else none := by
  by_cases h : name ∈ columnNames
  · obtain ⟨c, rfl⟩ := exists_label_eq h
    rw [if_pos h, get_label, value_ofColumns]
  · rw [if_neg h, get_of_not_mem h]

/-- The columns that are set are listed with their values, and no others are. -/
theorem mem_toColumns_iff : (c.label, v) ∈ r.toColumns ↔ r.value c = some v := by
  simp only [toColumns, columns_eq_map, List.mem_filterMap, List.mem_map]
  constructor
  · intro h
    obtain ⟨_, ⟨d, -, rfl⟩, hd⟩ := h
    obtain ⟨w, hw, heq⟩ := Option.map_eq_some_iff.1 hd
    obtain ⟨hlabel, rfl⟩ := Prod.mk.inj heq
    obtain rfl := Column.label_injective hlabel
    exact hw
  · intro h
    exact ⟨(c.label, some v), ⟨c, c.mem_all, congrArg (Prod.mk c.label) h⟩, rfl⟩

/-- A record is filled again by its own columns. Each is set once, so their order does not count. -/
theorem ofColumns_of_perm (h : pairs.Perm r.toColumns) : ofColumns pairs = r := by
  ext1
  funext c
  refine value_ofColumns_of_forall_mem fun v ↦ ?_
  rw [h.mem_iff, mem_toColumns_iff]

/-- **A record is a store under the names of its columns.** Setting succeeds exactly for these
names. Then the value is found under its name, and what is found under any other name is as before;
with a name that is no column's, nothing changes. A record filled by pairs has for each column the
value of the last pair with its name. The columns of a record are listed under their names, in
order, each with what is found there, and those that are set fill the record again in this or any
order. -/
theorem columns_stored_by_name (r : Record) :
    (∀ name v, r.set? name v = if name ∈ columnNames then some (r.set name v) else none) ∧
    (∀ name v, name ∈ columnNames →
      (r.set name v).get name = some v ∧
        ∀ other, other ≠ name → (r.set name v).get other = r.get other) ∧
    (∀ name v, name ∉ columnNames → r.set name v = r) ∧
    (∀ pairs name, (ofColumns pairs).get name =
      if name ∈ columnNames then ((pairs.filter fun p ↦ p.1 == name).getLast?).map Prod.snd
      else none) ∧
    r.columns = (columnNames.map fun name ↦ (name, r.get name)) ∧
    ∀ pairs : List (String × String), pairs.Perm r.toColumns → ofColumns pairs = r := by
  refine ⟨fun name v ↦ set?_eq name v r, fun name v h ↦ ⟨get_set_self h v r, fun other hother ↦ ?_⟩,
    fun name v h ↦ set_of_not_mem h v r, get_ofColumns, columns_eq r, fun pairs h ↦ ?_⟩
  · exact get_set_of_ne hother v r
  · exact ofColumns_of_perm h

/-- Two columns whose names are alike, a name in capitals, and the columns in reverse. -/
theorem columns_stored_by_name_two_ports :
    let r := (empty.put .mmsPort "80").put .port "81"
    ("mmsport" ∈ columnNames ∧ (r.set "mmsport" "").get "mmsport" = some "" ∧
      "port" ≠ "mmsport" ∧ (r.set "mmsport" "").get "port" = r.get "port") ∧
    ("MMSPORT" ∉ columnNames ∧ r.set "MMSPORT" "82" = r) ∧
    [("port", "81"), ("mmsport", "80")].Perm r.toColumns ∧
      ofColumns [("port", "81"), ("mmsport", "80")] = r := by
  intro r
  obtain ⟨-, hknown, hunknown, -, -, hfill⟩ := columns_stored_by_name r
  have hmem : "mmsport" ∈ columnNames := by decide
  have hne : "port" ≠ "mmsport" := by decide
  have hnot : "MMSPORT" ∉ columnNames := by decide
  have hperm : [("port", "81"), ("mmsport", "80")].Perm r.toColumns := .swap _ _ []
  obtain ⟨hself, hother⟩ := hknown "mmsport" "" hmem
  exact ⟨⟨hmem, hself, hne, hother "port" hne⟩, ⟨hnot, hunknown "MMSPORT" "82" hnot⟩, hperm,
    hfill _ hperm⟩

end AccessPoint.Record

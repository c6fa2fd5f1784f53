import AccessPoint.Proofs.Lists
import AccessPoint.Record.Basic

/-!
# The tables of columns

A column has its name in four places, each with a table of its own:

* `Record.columnNames`, the names in the order in which columns are reported;
* `Column.members`, the members by which documents hold a row, whose order is also that of the items
  of an array;
* `Record.columns`, which pairs names with values and is searched when a value is read;
* `Column.ofName?`, which leads from a name to the column that is set.

A name that led to one column in one table and to another in the next would send a value to the
wrong place, and two columns have names that are nearly those of two others (`mmsproxy` and `proxy`,
`mmsport` and `port`). So the tables are compared entry by entry, here and nowhere else
(`tables_agree`), together with the two facts that make them tables: that each has a single entry
for a name, and one for every column. Whatever is proved of filling, reading and describing records
takes a column by its name in documents, `Column.label`, and rests on the lemmas after that theorem.
Where a table changes, this module is where the proofs notice.
-/

namespace AccessPoint

open Column (all label members ofName?)

variable {name : String} {c d : Column}

/-- **The four tables of columns agree.** Columns are reported under the names by which documents
hold them and in the same order, each with the value that it has; and what is set under a name is
the column that documents hold under it. -/
theorem Record.tables_agree :
    columnNames = members.map Prod.fst ∧
      (∀ r, columns r = members.map fun m ↦ (m.1, r.value m.2)) ∧
        ∀ name c, ofName? name = some c ↔ (name, c) ∈ members := by
  refine ⟨rfl, fun r ↦ rfl, fun name c ↦ ⟨fun h ↦ ?_, fun h ↦ ?_⟩⟩
  · unfold ofName? at h
    split at h <;> cases h <;> decide
  · have hall : ∀ m ∈ members, ofName? m.1 = some m.2 := by decide
    exact hall _ h

/-! ### Columns and their names -/

namespace Column

/-- No name is given twice. -/
theorem nodup_names : (members.map Prod.fst).Nodup := by decide

/-- No column is held twice. -/
theorem nodup_all : all.Nodup := by decide

/-- Each member is that of its column: there is one for every column, under its name. -/
theorem members_eq : members = all.map fun c ↦ (c.label, c) := by decide

theorem map_fst_members : members.map Prod.fst = all.map label := by
  rw [members_eq, List.map_map]
  rfl

theorem nodup_labels : (all.map label).Nodup := map_fst_members ▸ nodup_names

/-- No two columns have the same name. -/
theorem label_injective (h : c.label = d.label) : c = d :=
  List.inj_on_of_nodup_map nodup_labels c.mem_all d.mem_all h

theorem mem_members_iff : (name, c) ∈ members ↔ name = c.label := by
  simp only [members_eq, List.mem_map, Prod.mk.injEq]
  constructor
  · intro h
    obtain ⟨d, -, hd, rfl⟩ := h
    exact hd.symm
  · intro h
    exact ⟨c, c.mem_all, h.symm, rfl⟩

/-- The column that is set under a name is the one of this name in documents. -/
theorem ofName?_eq_some_iff : ofName? name = some c ↔ name = c.label :=
  (Record.tables_agree.2.2 name c).trans mem_members_iff

theorem ofName?_label (c : Column) : ofName? c.label = some c := ofName?_eq_some_iff.2 rfl

/-- A search by name finds the column of the name. -/
theorem find?_label (c : Column) : (all.find? fun d ↦ d.label == c.label) = some c :=
  (find?_beq_eq_some_iff nodup_labels).2 ⟨c.mem_all, rfl⟩

end Column

/-! ### Records by name -/

namespace Record

variable {r : Record}

/-- Columns are reported under their names in documents, in the order of the members there. -/
theorem columnNames_eq : columnNames = all.map label :=
  tables_agree.1.trans Column.map_fst_members

/-- Each column is reported by its name with its value. -/
theorem columns_eq_map (r : Record) : r.columns = all.map fun c ↦ (c.label, r.value c) := by
  rw [tables_agree.2.1, Column.members_eq, List.map_map]
  rfl

/-- What is set under the name of a column is set in this column. -/
theorem set?_label (c : Column) (v : String) (r : Record) :
    r.set? c.label v = some (r.put c v) := by
  rw [set?, Column.ofName?_label, Option.map_some]

/-- What is read under the name of a column is read from this column. -/
theorem get_label (c : Column) (r : Record) : r.get c.label = r.value c := by
  rw [get, columns_eq_map, List.find?_map]
  show ((all.find? fun d ↦ d.label == c.label).map fun d ↦ (d.label, r.value d)).bind Prod.snd = _
  rw [Column.find?_label, Option.map_some, Option.bind_some]

end Record

end AccessPoint

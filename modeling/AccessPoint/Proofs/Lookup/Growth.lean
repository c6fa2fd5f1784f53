import AccessPoint.Proofs.Selection
import AccessPoint.Proofs.Table

/-!
# Lookups in a growing table

Rows are only ever inserted behind those that are there. A lookup that found something to decide on
therefore keeps its answer, and one that found nothing goes on as if the table had been empty
(`load_growing_table`). What it may have decided on is a row that it selects, or a row with a URL
that is refused: the latter is an answer as well, and new rows do not take it back.

The two cases are `result_load_insertAll_of_ne` and `result_load_insertAll_of_eq`. Both rest on the
same two facts: a query on a table with further rows is the query on the table followed by the query
on the rows (`Table.query_insertAll`), and a selection from a list in two parts is settled by the
first part unless that leaves nothing to decide on (`Selection.result_resolve_append_of_ne`,
`Selection.result_resolve_append_of_eq`). A run of inserts is cut at any two places, so the answers
after the earlier and the later one are compared without an induction of their own.
-/

namespace AccessPoint

variable {config : Config} {t : Table} {name : Option String} {subId : Int32} {id : String}

/-- New rows make no difference to a lookup that had an answer. -/
theorem result_load_insertAll_of_ne (rows : List Row)
    (h : (load config (.ofTable t) name subId id).result ≠ .error .noValidApn) :
    (load config (.ofTable (t.insertAll rows)) name subId id).result =
      (load config (.ofTable t) name subId id).result := by
  rw [result_load_ofTable] at h
  rw [result_load_ofTable, result_load_ofTable, Table.query_insertAll,
    Selection.result_resolve_append_of_ne h]

/-- Without an answer in the old rows, the lookup goes through the new ones alone. -/
theorem result_load_insertAll_of_eq (rows : List Row)
    (h : (load config (.ofTable t) name subId id).result = .error .noValidApn) :
    (load config (.ofTable (t.insertAll rows)) name subId id).result =
      (load config (.ofTable (Table.empty.insertAll rows)) name subId id).result := by
  rw [result_load_ofTable] at h
  rw [result_load_ofTable, result_load_ofTable, Table.query_insertAll,
    Selection.result_resolve_append_of_eq h]

/-- **Lookups in a growing table.** When rows are inserted into a table, a lookup answers as it did
before, unless it found no valid APN, in which case it answers as it does on the new rows alone. So
over a run of inserts, settings or a faulty URL that a lookup has once answered are what it answers
ever after. -/
theorem load_growing_table (config : Config) (name : Option String) (subId : Int32) (id : String) :
    let answer := fun t : Table ↦ (load config (.ofTable t) name subId id).result
    (∀ (t : Table) (rows : List Row), answer (t.insertAll rows) =
      if answer t = .error .noValidApn then answer (Table.empty.insertAll rows) else answer t) ∧
    ∀ (t : Table) (run : List Row) (m n : Nat), m ≤ n →
      answer (t.insertAll (run.take m)) ≠ .error .noValidApn →
        answer (t.insertAll (run.take n)) = answer (t.insertAll (run.take m)) := by
  intro answer
  constructor
  · intro t rows
    split
    · next h => exact result_load_insertAll_of_eq rows h
    · next h => exact result_load_insertAll_of_ne rows h
  · intro t run m n hmn h
    obtain ⟨k, rfl⟩ := Nat.exists_eq_add_of_le hmn
    rw [List.take_add, Table.insertAll_append]
    exact result_load_insertAll_of_ne _ h

/-- Three inserts: nothing to decide on after the first, and the answer that the second brings stays
when the third row comes. -/
theorem load_growing_table_three_inserts :
    let answer := fun t : Table ↦ (load {} (.ofTable t) none 1 "req").result
    let run : List Row := [⟨1, Record.empty⟩, ⟨1, Record.empty.put .mmsc "http://bad host/"⟩,
      ⟨1, Record.empty.put .mmsc "http://m/"⟩]
    answer (Table.empty.insertAll (run.take 1)) = .error .noValidApn ∧
      answer (Table.empty.insertAll (run.take 2)) ≠ .error .noValidApn ∧
      answer (Table.empty.insertAll (run.take 3)) =
        answer (Table.empty.insertAll (run.take 2)) := by
  intro answer run
  have h : answer (Table.empty.insertAll (run.take 2)) ≠ .error .noValidApn := by decide +kernel
  exact ⟨by decide +kernel, h,
    (load_growing_table {} none 1 "req").2 Table.empty run 2 3 (by decide) h⟩

end AccessPoint

import AccessPoint.Lookup
import Mathlib.Data.List.Forall2

/-!
# Tables under inserts and queries

A run of inserts puts its rows at the end of the table, in order (`rows_insertAll`), and a query
goes through the rows one by one, so that what it selects from the new rows comes behind what it
selects from the old (`query_insertAll`). A run in two parts is a run after a run
(`insertAll_append`), which is how a table is looked at while it grows.

Two tables may be compared row by row. If a query makes no difference between rows that correspond,
what it selects corresponds as well, in the same order (`query_forall₂`). The relation is between
records, whatever it may be; that the rows are of the same subscriptions is asked besides, since
every query looks at that.

A lookup in a table is a selection among what its query selects (`result_load_ofTable`), and its log
is that of the selection behind two entries of its own (`entries_load_ofTable`). With these two, no
proof about lookups needs to open them.
-/

namespace AccessPoint

open Log (Event)

namespace Table

variable {t u : Table} {q : Query}

/-! ### Runs of inserts -/

/-- The table after the rows were inserted one after the other. -/
def insertAll (t : Table) (rows : List Row) : Table :=
  rows.foldl (fun t row ↦ t.insert row.subId row.record) t

/-- New rows come behind the old ones, in the order in which they are inserted. -/
theorem rows_insertAll (t : Table) (rows : List Row) :
    (t.insertAll rows).rows = t.rows ++ rows := by
  induction rows generalizing t with
  | nil => exact (List.append_nil t.rows).symm
  | cons row rows ih =>
    show ((t.insert row.subId row.record).insertAll rows).rows = _
    rw [ih, rows_insert, List.append_assoc, List.singleton_append]

theorem insertAll_append (t : Table) (rows later : List Row) :
    t.insertAll (rows ++ later) = (t.insertAll rows).insertAll later :=
  List.foldl_append

/-- The records selected from new rows come behind those selected from the old ones. -/
theorem query_insertAll (t : Table) (rows : List Row) (q : Query) :
    (t.insertAll rows).query q = t.query q ++ (empty.insertAll rows).query q := by
  rw [query, query, query, rows_insertAll, rows_insertAll, List.filter_append, List.map_append]
  rfl

/-! ### Queries on two tables -/

/-- If two tables correspond row by row and a query makes no difference between rows that do, what
it selects corresponds record by record. -/
theorem query_forall₂ {ρ : Record → Record → Prop}
    (h : List.Forall₂ (fun a b ↦ a.subId = b.subId ∧ ρ a.record b.record) t.rows u.rows)
    (hq : ∀ r s, ρ r s → q.accepts r = q.accepts s) :
    List.Forall₂ ρ (t.query q) (u.query q) := by
  refine List.rel_map (fun a b hab ↦ hab.2) (List.rel_filter (fun a b hab ↦ ?_) h)
  obtain ⟨hsub, hρ⟩ := hab
  show (a.subId == q.subId && q.accepts a.record) = true ↔ _
  rw [hsub, hq _ _ hρ]

end Table

/-! ### Lookups in a table -/

section Lookup

variable (config : Config) (t : Table) (name : Option String) (subId : Int32) (id : String)

/-- A lookup answers as the selection among the records that its query selects. -/
theorem result_load_ofTable :
    (load config (.ofTable t) name subId id).result =
      (resolve (t.query (.ofName subId (name <|> config.apnName))) config.apnType id).result :=
  rfl

/-- A lookup logs what it looks for and how much it has found, and then what its selection logs. -/
theorem entries_load_ofTable :
    (load config (.ofTable t) name subId id).entries =
      (Event.loading id subId.toInt (name <|> config.apnName)).entry none ::
        (Event.fetched id (t.query (.ofName subId (name <|> config.apnName))).length).entry none ::
          (resolve (t.query (.ofName subId (name <|> config.apnName))) config.apnType id).entries :=
  rfl

end Lookup

end AccessPoint

import AccessPoint.Proofs.Table

/-!
# Lookups and other subscriptions

A query looks at the subscription of a row before anything else, so it can be answered from the rows
of that subscription alone (`Table.query_eq_filter_rowsOf`). Two tables with the same such rows, in
the same order, cannot be told apart by queries or lookups for the subscription, whatever rows of
others stand between them (`load_isolated`).

The hypothesis compares the rows of the subscription as lists, `t.rowsOf subId = u.rowsOf subId`.
This covers every way in which the rows of others may be mixed in, without an induction over the
interleavings: filtering forgets them. A row of another subscription with a URL that would be
refused ends no lookup here, and the case below has one in each table, in different places.
-/

namespace AccessPoint

variable {t u : Table} {subId : Int32}

/-- The rows of a subscription, in the order of insertion. -/
def Table.rowsOf (subId : Int32) (t : Table) : List Row := t.rows.filter (·.subId == subId)

/-- A query selects among the rows of its subscription by the access point name. -/
theorem Table.query_eq_filter_rowsOf (t : Table) (q : Query) :
    t.query q = ((t.rowsOf q.subId).filter fun row ↦ q.accepts row.record).map Row.record := by
  rw [query, rowsOf, List.filter_filter]
  simp only [Bool.and_comm]

/-- Queries for a subscription see no more of a table than its rows. -/
theorem Table.query_eq_of_rowsOf_eq (h : t.rowsOf subId = u.rowsOf subId) {q : Query}
    (hq : q.subId = subId) : t.query q = u.query q := by
  rw [query_eq_filter_rowsOf, query_eq_filter_rowsOf, hq, h]

/-- **Subscriptions are isolated.** If two tables have the same rows of a subscription, in the same
order, then every query for it selects the same records from both, in the same order, and every
lookup for it gives the same answer and the same log. Rows of other subscriptions make no
difference, however many there are and wherever they stand. -/
theorem load_isolated (h : t.rowsOf subId = u.rowsOf subId) :
    (∀ q : Query, q.subId = subId → t.query q = u.query q) ∧
      ∀ (config : Config) (name : Option String) (id : String),
        (load config (.ofTable t) name subId id).result =
            (load config (.ofTable u) name subId id).result ∧
          (load config (.ofTable t) name subId id).entries =
            (load config (.ofTable u) name subId id).entries := by
  refine ⟨fun q hq ↦ Table.query_eq_of_rowsOf_eq h hq, fun config name id ↦ ?_⟩
  have hcandidates : t.query (.ofName subId (name <|> config.apnName)) =
      u.query (.ofName subId (name <|> config.apnName)) := Table.query_eq_of_rowsOf_eq h rfl
  rw [result_load_ofTable, result_load_ofTable, entries_load_ofTable, entries_load_ofTable,
    hcandidates]
  exact ⟨rfl, rfl⟩

/-- Two rows of a subscription, with rows of others in different places, one of them with a URL that
is refused. -/
theorem load_isolated_interleaved :
    let first : Row := ⟨1, Record.empty.put .type "supl"⟩
    let second : Row := ⟨1, Record.empty.put .mmsc "http://m/"⟩
    let refused : Row := ⟨2, Record.empty.put .mmsc "http://bad host/"⟩
    let t : Table := ⟨[first, refused, second]⟩
    let u : Table := ⟨[refused, refused, first, second, ⟨3, Record.empty⟩]⟩
    t.rowsOf 1 = u.rowsOf 1 ∧ t.query ⟨1, none⟩ = u.query ⟨1, none⟩ ∧
      (load {} (.ofTable t) none 1 "req").result = (load {} (.ofTable u) none 1 "req").result ∧
      (load {} (.ofTable t) none 1 "req").entries = (load {} (.ofTable u) none 1 "req").entries ∧
      (load {} (.ofTable t) none 2 "req").entries ≠
        (load {} (.ofTable u) none 2 "req").entries := by
  intro first second refused t u
  have h : t.rowsOf 1 = u.rowsOf 1 := by decide
  obtain ⟨hquery, hload⟩ := load_isolated h
  exact ⟨h, hquery _ rfl, (hload {} none "req").1, (hload {} none "req").2, by decide +kernel⟩

end AccessPoint

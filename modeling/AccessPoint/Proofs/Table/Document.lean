import AccessPoint.Proofs.Record
import AccessPoint.Proofs.Table
import AccessPoint.Table.Toml

/-!
# Tables described by documents

A document describes a table if what it holds under `apn`, where it holds anything, is an array of
tables that each describe a row (`IsTable`, `IsRow`). Such a document is read, and the table is the
one that the rows it lists make when they are inserted one after the other. Any other document is
refused as a whole, however many rows it lists besides (`parse_all_or_nothing`).

`IsTable` says which documents are read, and `ListsRows` what is read from them. They are kept
apart, since a document may be refused for what it holds in one row while it lists others properly.
Every document that describes a table lists its rows (`exists_listsRows`), from a document that
lists rows they are read (`ofToml?_of_listsRows`), and what is read describes a table
(`isTable_of_ofToml?`); the three close the circle for tables as their counterparts do for rows.

Columns are looked up by name when a document is read. So the order in which a row lists its columns
makes no difference, and a key that names no column makes none either. The pairs of `ListsRow` are
therefore fixed by their members only (`ListsRow.mem_iff`), and `Record.ofColumns` gives the same
record from them in any order.

The number of a subscription fits 32 bits, and one that does not is refused and not cut
(`Row.ofToml?_eq_some_iff`).
-/

namespace AccessPoint

open Toml (Tree Value)

variable {entries tree : Tree} {v : Value} {c : Column} {row : Row} {subId : Int32}
  {pairs : List (String × String)}

/-! ### Values -/

theorem Toml.Value.table?_eq_some_iff : v.table? = some entries ↔ v = .table entries := by
  cases v <;> simp [table?]

/-- An integer is read exactly if it lies within the bounds. -/
theorem Toml.Value.integer?_eq_some_iff {least greatest n : Int} :
    v.integer? least greatest = some n ↔ v = .integer n ∧ least ≤ n ∧ n ≤ greatest := by
  cases v with
  | integer m =>
    rw [integer?, Option.ite_none_right_eq_some, Option.some.injEq, Value.integer.injEq]
    exact ⟨fun ⟨h, hm⟩ ↦ ⟨hm, hm ▸ h⟩, fun ⟨hm, h⟩ ↦ ⟨hm ▸ h, hm⟩⟩
  | _ => simp [integer?]

/-- A column is read from a text, or as nothing where its name is not there. -/
theorem Column.ofToml?_eq_some_iff {value : Option String} :
    Column.ofToml? entries c = some value ↔
      entries.lookup c.label = none ∧ value = none ∨
        ∃ s, entries.lookup c.label = some (.string s) ∧ value = some s := by
  rw [Column.ofToml?]
  cases entries.lookup c.label with
  | none => simp [Value.orDefault, eq_comm]
  | some v => cases v <;> simp [Value.orDefault, Value.string?, eq_comm]

/-! ### Rows -/

/-- What describes a row: a table with the number of a subscription, which fits 32 bits, and for
each column a text or nothing. -/
def IsRow (v : Value) : Prop :=
  ∃ entries, v = .table entries ∧
    (∃ n, entries.lookup "sub_id" = some (.integer n) ∧ -2147483648 ≤ n ∧ n ≤ 2147483647) ∧
      ∀ c : Column, entries.lookup c.label = none ∨
        ∃ s, entries.lookup c.label = some (.string s)

/-- The table lists the columns of a row of the subscription; the pairs are these columns, in any
order, and possibly others that are none. -/
structure ListsRow (entries : Tree) (subId : Int32) (pairs : List (String × String)) : Prop where
  subId : entries.lookup "sub_id" = some (.integer subId.toInt)
  text : ∀ (c : Column) (v : Value), entries.lookup c.label = some v → ∃ s, v = .string s
  mem_iff : ∀ (c : Column) (s : String),
    (c.label, s) ∈ pairs ↔ entries.lookup c.label = some (.string s)

/-- A row is read exactly from a table with its subscription and with what its record holds. -/
theorem Row.ofToml?_eq_some_iff :
    Row.ofToml? v = some row ↔
      ∃ entries, v = .table entries ∧
        entries.lookup "sub_id" = some (.integer row.subId.toInt) ∧
          ∀ c, Column.ofToml? entries c = some (row.record.value c) := by
  simp only [Row.ofToml?, Option.bind_eq_bind, Option.bind_eq_some_iff, Option.pure_def,
    Value.table?_eq_some_iff, Value.integer?_eq_some_iff]
  constructor
  · intro h
    obtain ⟨entries, hv, _, hid, n, ⟨rfl, hle, hlt⟩, values, hvalues, hrow⟩ := h
    obtain rfl := Option.some.inj hrow
    have hn : (Int32.ofInt n).toInt = n :=
      Int32.toInt_ofInt_of_le hle (Int.lt_of_le_of_lt hlt (by decide))
    refine ⟨entries, hv, hid.trans (by rw [hn]), ?_⟩
    exact Record.map_ofValues_mapM_eq_some_iff.1 (by rw [hvalues, Option.map_some])
  · intro h
    obtain ⟨entries, hv, hid, hvalues⟩ := h
    obtain ⟨values, hread, hrecord⟩ :=
      Option.map_eq_some_iff.1 (Record.map_ofValues_mapM_eq_some_iff.2 hvalues)
    refine ⟨entries, hv, _, hid, row.subId.toInt, ⟨rfl, Int32.minValue_le_toInt _,
      Int32.toInt_le _⟩, values, hread, ?_⟩
    rw [Int32.ofInt_toInt, hrecord]

/-- The row that a table lists is the one filled with its columns. -/
theorem ListsRow.ofToml? (h : ListsRow entries subId pairs) :
    Row.ofToml? (.table entries) = some ⟨subId, Record.ofColumns pairs⟩ := by
  refine Row.ofToml?_eq_some_iff.2 ⟨entries, rfl, h.subId, fun c ↦ ?_⟩
  rw [Column.ofToml?_eq_some_iff]
  cases hc : entries.lookup c.label with
  | none =>
    refine .inl ⟨rfl, Record.value_ofColumns_of_forall_mem fun s ↦ ?_⟩
    simp [h.mem_iff, hc]
  | some v =>
    obtain ⟨s, rfl⟩ := h.text c v hc
    refine .inr ⟨s, rfl, Record.value_ofColumns_of_forall_mem fun t ↦ ?_⟩
    rw [h.mem_iff, hc, Option.some.injEq, Option.some.injEq, Value.string.injEq]

/-- Whatever is read as a row describes one. -/
theorem IsRow.of_ofToml? (h : Row.ofToml? v = some row) : IsRow v := by
  obtain ⟨entries, rfl, hid, hvalues⟩ := Row.ofToml?_eq_some_iff.1 h
  refine ⟨entries, rfl, ⟨_, hid, row.subId.le_toInt, Int.le_of_lt_add_one row.subId.toInt_lt⟩,
    fun c ↦ ?_⟩
  rcases Column.ofToml?_eq_some_iff.1 (hvalues c) with ⟨hc, -⟩ | ⟨s, hc, -⟩
  · exact .inl hc
  · exact .inr ⟨s, hc⟩

/-- Whatever describes a row lists its columns. -/
theorem IsRow.exists_listsRow (h : IsRow v) :
    ∃ entries subId pairs, v = .table entries ∧ ListsRow entries subId pairs := by
  obtain ⟨entries, rfl, ⟨n, hid, hle, hlt⟩, htexts⟩ := h
  refine ⟨entries, Int32.ofInt n, Column.all.filterMap fun c ↦
    ((entries.lookup c.label).bind Value.string?).map (c.label, ·), rfl, ?_, ?_, ?_⟩
  · rw [hid, Int32.toInt_ofInt_of_le hle (Int.lt_of_le_of_lt hlt (by decide))]
  · intro c v hc
    rcases htexts c with hnone | ⟨s, hs⟩
    · rw [hnone] at hc
      cases hc
    · exact ⟨s, Option.some.inj (hc.symm.trans hs)⟩
  · intro c s
    rw [List.mem_filterMap]
    constructor
    · intro h
      obtain ⟨d, -, hd⟩ := h
      obtain ⟨t, ht, heq⟩ := Option.map_eq_some_iff.1 hd
      obtain ⟨hlabel, rfl⟩ := Prod.mk.inj heq
      obtain ⟨w, hw, hstring⟩ := Option.bind_eq_some_iff.1 ht
      rcases htexts d with hnone | ⟨u, hu⟩
      · rw [hnone] at hw
        cases hw
      · obtain rfl := Option.some.inj (hu.symm.trans hw)
        obtain rfl := Option.some.inj hstring
        rw [← hlabel, hu]
    · intro h
      exact ⟨c, c.mem_all, by rw [h]; rfl⟩

/-! ### Tables -/

/-- What describes a table: an array of values that each describe a row, or nothing at all, under
the key `apn`. -/
def IsTable (tree : Tree) : Prop :=
  tree.lookup "apn" = none ∨
    ∃ elements, tree.lookup "apn" = some (.array elements) ∧ ∀ v ∈ elements, IsRow v

/-- The document lists the rows, in this order. -/
def ListsRows (tree : Tree) (rows : List (Int32 × List (String × String))) : Prop :=
  ∃ elements : List Tree, (tree.lookup "apn").getD (.array []) = .array (elements.map .table) ∧
    List.Forall₂ (fun entries row ↦ ListsRow entries row.1 row.2) elements rows

namespace Table

variable {t : Table} {rows : List (Int32 × List (String × String))}

/-- The table that rows make when they are inserted in order, each filled with its columns. -/
def ofRows (rows : List (Int32 × List (String × String))) : Table :=
  rows.foldl (fun t row ↦ t.insert row.1 (Record.ofColumns row.2)) empty

theorem ofRows_eq (rows : List (Int32 × List (String × String))) :
    ofRows rows = ⟨rows.map fun row ↦ ⟨row.1, Record.ofColumns row.2⟩⟩ := by
  have hinsert : ofRows rows =
      empty.insertAll (rows.map fun row ↦ ⟨row.1, Record.ofColumns row.2⟩) := by
    rw [ofRows, insertAll, List.foldl_map]
  rw [hinsert]
  ext1
  rw [rows_insertAll, rows_empty, List.nil_append]

/-- A document without rows describes the table without rows. -/
theorem ofToml?_eq (tree : Tree) :
    ofToml? tree =
      (((tree.lookup "apn").getD (.array [])).array?.bind (·.mapM Row.ofToml?)).map Table.mk := by
  rw [ofToml?]
  cases tree.lookup "apn" with
  | none => rfl
  | some v =>
    rw [Option.getD_some, Option.map_bind]
    simp only [Function.comp_def, Option.map_eq_bind]
    rfl

/-- The table that a document describes is made by inserting the rows that it lists. -/
theorem ofToml?_of_listsRows (h : ListsRows tree rows) : ofToml? tree = some (ofRows rows) := by
  obtain ⟨elements, htree, hrows⟩ := h
  have hread : (elements.map Value.table).mapM Row.ofToml? =
      some (rows.map fun row ↦ ⟨row.1, Record.ofColumns row.2⟩) := by
    rw [mapM_eq_some_iff, List.forall₂_map_left_iff, List.forall₂_map_right_iff]
    exact hrows.imp fun _ _ hrow ↦ hrow.ofToml?
  rw [ofToml?_eq, htree, Value.array?, Option.bind_some, hread, ofRows_eq, Option.map_some]

/-- Whatever is read as a table describes one. -/
theorem isTable_of_ofToml? (h : ofToml? tree = some t) : IsTable tree := by
  rw [ofToml?_eq] at h
  obtain ⟨rows, hrows, -⟩ := Option.map_eq_some_iff.1 h
  obtain ⟨elements, helements, hread⟩ := Option.bind_eq_some_iff.1 hrows
  cases hapn : tree.lookup "apn" with
  | none => exact .inl hapn
  | some v =>
    rw [hapn] at helements
    cases v with
    | array items =>
      obtain rfl := Option.some.inj helements
      refine .inr ⟨items, hapn, fun v hv ↦ ?_⟩
      obtain ⟨row, hrow⟩ := exists_of_mapM_eq_some hread hv
      exact .of_ofToml? hrow
    | _ => cases helements

/-- A document that describes a table lists its rows. -/
theorem exists_listsRows (h : IsTable tree) : ∃ rows, ListsRows tree rows := by
  suffices hlist : ∀ values : List Value, (∀ v ∈ values, IsRow v) →
      ∃ (elements : List Tree) (rows : List (Int32 × List (String × String))),
        values = elements.map .table ∧
          List.Forall₂ (fun entries row ↦ ListsRow entries row.1 row.2) elements rows by
    rcases h with hnone | ⟨values, hapn, hvalues⟩
    · exact ⟨[], [], by rw [hnone]; rfl, .nil⟩
    · obtain ⟨elements, rows, rfl, hrows⟩ := hlist values hvalues
      exact ⟨rows, elements, by rw [hapn]; rfl, hrows⟩
  intro values hvalues
  induction values with
  | nil => exact ⟨[], [], rfl, .nil⟩
  | cons v values ih =>
    obtain ⟨hv, hrest⟩ := List.forall_mem_cons.1 hvalues
    obtain ⟨entries, subId, pairs, rfl, hrow⟩ := hv.exists_listsRow
    obtain ⟨elements, rows, rfl, hrows⟩ := ih hrest
    exact ⟨entries :: elements, (subId, pairs) :: rows, rfl, .cons hrow hrows⟩

/-- **A document is read as a whole or not at all.** It is read exactly if it describes a table: if
there is nothing under `apn`, or an array whose every element is a table with an integer of 32 bits
under `sub_id` and a text or nothing under the name of each column. Such a document lists its rows,
and the table is then the one that these make when they are inserted in their order into an empty
one, each filled with its columns. Any other document gives an error and no table. -/
theorem parse_all_or_nothing {text : String} (h : Toml.parse text = some tree) :
    ((∃ t, Table.parse text = .ok t) ↔ IsTable tree) ∧
      (IsTable tree → ∃ rows, ListsRows tree rows) ∧
        (∀ rows, ListsRows tree rows → Table.parse text = .ok (ofRows rows)) ∧
          (¬IsTable tree → Table.parse text = .error .document) := by
  have hok : ∀ t, ofToml? tree = some t → Table.parse text = .ok t := by
    intro t hread
    simp only [Table.parse, h, Option.bind_some, hread]
  have herror : ofToml? tree = none → Table.parse text = .error .document := by
    intro hread
    simp only [Table.parse, h, Option.bind_some, hread]
  have hlists : ∀ rows, ListsRows tree rows → Table.parse text = .ok (ofRows rows) :=
    fun rows hrows ↦ hok _ (ofToml?_of_listsRows hrows)
  refine ⟨⟨fun hsome ↦ ?_, fun htable ↦ ?_⟩, exists_listsRows, hlists, fun hno ↦ ?_⟩
  · obtain ⟨t, ht⟩ := hsome
    cases hread : ofToml? tree with
    | some u => exact isTable_of_ofToml? hread
    | none =>
      rw [herror hread] at ht
      cases ht
  · obtain ⟨rows, hrows⟩ := exists_listsRows htable
    exact ⟨_, hlists rows hrows⟩
  · cases hread : ofToml? tree with
    | some u => exact absurd (isTable_of_ofToml? hread) hno
    | none => exact herror hread

/-- A row with its columns out of order, among them a key that is no column. -/
theorem parse_row_out_of_order :
    let text := "[[apn]]\nsub_id=-1\nmmsport='80'\nx=1\nmmsc='http://m/'"
    let entries : Tree := [("sub_id", .integer (-1)), ("mmsport", .string "80"),
      ("x", .integer 1), ("mmsc", .string "http://m/")]
    let tree : Tree := [("apn", .array [.table entries])]
    let rows : List (Int32 × List (String × String)) :=
      [(-1, [("mmsc", "http://m/"), ("mmsport", "80")])]
    Toml.parse text = some tree ∧ ListsRows tree rows ∧ Table.parse text = .ok (ofRows rows) := by
  intro text entries tree rows
  have htree : Toml.parse text = some tree := by decide +kernel
  have hrow : ListsRow entries (-1) [("mmsc", "http://m/"), ("mmsport", "80")] := by
    refine ⟨rfl, fun c v h ↦ ?_, fun c s ↦ ?_⟩
    · cases c <;> simp [entries, Column.label, Column.members, List.lookup_cons] at h
      all_goals exact ⟨_, h.symm⟩
    · cases c <;> simp [entries, Column.label, Column.members, List.lookup_cons, eq_comm]
  have hrows : ListsRows tree rows := ⟨[entries], rfl, .cons hrow .nil⟩
  obtain ⟨-, -, hread, -⟩ := parse_all_or_nothing htree
  exact ⟨htree, hrows, hread rows hrows⟩

end Table

end AccessPoint

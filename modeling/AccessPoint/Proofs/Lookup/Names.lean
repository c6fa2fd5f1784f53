import AccessPoint.Proofs.Table
import AccessPoint.Proofs.Text.Blank

/-!
# Queries by access point name

The name that a query is given is trimmed, the names of the rows are not. What a query then asks of
a row is said by `Query.Wants` on the name as it was given, and the query selects the rows that are
wanted and no others (`Table.query_ofName`), in the order in which they were inserted and each time
that they were (`Table.count_query_ofName`). The order is in the first, since filtering keeps it;
the second adds that equal rows are not merged.

A row is therefore out of reach of its own name if that name begins or ends with a blank, unless it
has nothing but blanks and so asks for every row (`Query.wants_self_iff`). This is how the two sides
are treated, and it is stated as it is: a row that was inserted under a padded name is found by
queries without a name only.

Where the name of a lookup comes from makes no difference to it: without one it goes by the
configured name (`load_none`), and with one, be it blank, the configured name is not looked at
(`load_some`).
-/

namespace AccessPoint

open Text (isBlank)

variable {t : Table} {r : Record} {row : Row} {subId : Int32} {name : Option String} {a : String}

/-! ### What a query asks of a record -/

namespace Query

/-- A record is wanted if it has the name asked for, rid of the blanks at its ends. Without a name,
or with one that has nothing but blanks, any record is. -/
def Wants (name : Option String) (r : Record) : Prop :=
  ∀ a ∈ name, ¬a.toList.all isBlank → r.value .apn = some (Text.trim a)

instance (name : Option String) (r : Record) : Decidable (Wants name r) :=
  inferInstanceAs (Decidable (∀ a ∈ name, _ → _))

/-- Without a name, or with blanks for a name, every record is wanted. -/
theorem wants_of_blank (h : ∀ a ∈ name, ∀ c ∈ a.toList, isBlank c) : Wants name r :=
  fun a ha hblank ↦ absurd (List.all_eq_true.2 (h a ha)) hblank

/-- A name with something in it is asked for as trimming leaves it. -/
theorem wants_some_iff (h : ¬∀ c ∈ a.toList, isBlank c) :
    Wants (some a) r ↔ r.value .apn = some (Text.trim a) := by
  rw [← List.all_eq_true] at h
  exact ⟨fun hw ↦ hw a rfl h, fun hr _ hb _ ↦ Option.some.inj hb ▸ hr⟩

/-- A query accepts the records that are wanted under the name it was made with. -/
theorem accepts_ofName : (ofName subId name).accepts r ↔ Wants name r := by
  rw [accepts, ofName]
  rcases name with - | a
  · exact iff_of_true rfl (wants_of_blank (by simp))
  · by_cases h : ∀ c ∈ a.toList, isBlank c
    · rw [Text.present?_of_forall_isBlank h]
      exact iff_of_true rfl (wants_of_blank (by simpa using h))
    · rw [Text.present?_of_not_forall_isBlank h, wants_some_iff h]
      exact beq_iff_eq

/-- A record is wanted by its own name if no blank stands at an end of it, or if there is nothing
else in it. -/
theorem wants_self_iff (h : r.value .apn = some a) :
    Wants (some a) r ↔
      ((∀ c ∈ a.toList.head?, isBlank c = false) ∧ ∀ c ∈ a.toList.getLast?, isBlank c = false) ∨
        ∀ c ∈ a.toList, isBlank c := by
  by_cases hblank : ∀ c ∈ a.toList, isBlank c
  · exact iff_of_true (wants_of_blank (by simpa using hblank)) (.inr hblank)
  · rw [wants_some_iff hblank, h, Option.some_inj, eq_comm, Text.trim_eq_self_iff_ends,
      or_iff_left hblank]

end Query

/-! ### What a query selects -/

namespace Table

/-- The records of the wanted rows of the subscription, in the order of insertion. -/
theorem query_ofName (t : Table) (subId : Int32) (name : Option String) :
    t.query (.ofName subId name) =
      (t.rows.filter fun row ↦ row.subId = subId ∧ Query.Wants name row.record).map Row.record := by
  refine congrArg (List.map Row.record) (List.filter_congr fun row _ ↦ ?_)
  rw [Bool.eq_iff_iff, Bool.and_eq_true, beq_iff_eq, Query.accepts_ofName, decide_eq_true_eq]
  rfl

/-- A record is selected if a row of the subscription holds it and it is wanted. -/
theorem mem_query_ofName :
    r ∈ t.query (.ofName subId name) ↔ ⟨subId, r⟩ ∈ t.rows ∧ Query.Wants name r := by
  rw [query_ofName, List.mem_map]
  simp only [List.mem_filter, decide_eq_true_eq]
  constructor
  · rintro ⟨row, ⟨hrow, rfl, hwants⟩, rfl⟩
    exact ⟨hrow, hwants⟩
  · rintro ⟨hrow, hwants⟩
    exact ⟨⟨subId, r⟩, ⟨hrow, rfl, hwants⟩, rfl⟩

/-- A record is selected as often as its row is there, if it is wanted. -/
theorem count_query_ofName (t : Table) (subId : Int32) (name : Option String) (r : Record) :
    (t.query (.ofName subId name)).count r =
      if Query.Wants name r then t.rows.count ⟨subId, r⟩ else 0 := by
  split
  · next hwants =>
    rw [query_ofName, List.count, List.countP_map, List.countP_filter, List.count]
    refine List.countP_congr fun row _ ↦ ?_
    show (row.record == r && decide (row.subId = subId ∧ Query.Wants name row.record)) = true ↔
      (row == ⟨subId, r⟩) = true
    rw [Bool.and_eq_true, beq_iff_eq, beq_iff_eq, decide_eq_true_eq]
    constructor
    · rintro ⟨rfl, rfl, -⟩
      rfl
    · rintro rfl
      exact ⟨rfl, rfl, hwants⟩
  · next hwants => exact List.count_eq_zero.2 fun hmem ↦ hwants (mem_query_ofName.1 hmem).2

end Table

/-! ### Lookups by name -/

section Lookup

variable (config : Config) (source : Source) (subId : Int32) (id : String)

/-- Without a name, a lookup goes by the configured one. -/
theorem load_none :
    load config source none subId id = load config source config.apnName subId id := by
  rw [load, load]
  rcases config.apnName with - | a <;> rfl

/-- With a name, a lookup does not look at the configured one. -/
theorem load_some (a : String) (other : Option String) :
    load { config with apnName := other } source (some a) subId id =
      load config source (some a) subId id :=
  rfl

end Lookup

/-- **Queries lose, invent and reorder nothing.** After any run of inserts, a query selects the
records of its subscription that are wanted under the name it was given, in the order of insertion
and each as often as it was inserted. A row is selected by the query for its own name exactly if no
blank stands at an end of the name, or nothing but blanks is in it. A lookup without a name goes by
the configured name, and one with a name, be it blank, does not depend on the configured one. -/
theorem records_queried_by_name (t : Table) (rows : List Row) :
    (∀ subId name, (t.insertAll rows).query (.ofName subId name) =
        ((t.rows ++ rows).filter fun row ↦
          row.subId = subId ∧ Query.Wants name row.record).map Row.record) ∧
      (∀ subId name r, ((t.insertAll rows).query (.ofName subId name)).count r =
        if Query.Wants name r then (t.rows ++ rows).count ⟨subId, r⟩ else 0) ∧
      (∀ row ∈ t.rows ++ rows, ∀ a, row.record.value .apn = some a →
        (row.record ∈ (t.insertAll rows).query (.ofName row.subId (some a)) ↔
          ((∀ c ∈ a.toList.head?, isBlank c = false) ∧
              ∀ c ∈ a.toList.getLast?, isBlank c = false) ∨
            ∀ c ∈ a.toList, isBlank c)) ∧
      ∀ (config : Config) (source : Source) (subId : Int32) (id : String),
        load config source none subId id = load config source config.apnName subId id ∧
          ∀ a other, load { config with apnName := other } source (some a) subId id =
            load config source (some a) subId id := by
  have hrows : (t.insertAll rows).rows = t.rows ++ rows := Table.rows_insertAll t rows
  refine ⟨fun subId name ↦ ?_, fun subId name r ↦ ?_, fun row hrow a ha ↦ ?_,
    fun config source subId id ↦ ?_⟩
  · rw [Table.query_ofName, hrows]
  · rw [Table.count_query_ofName, hrows]
  · rw [Table.mem_query_ofName, hrows, Query.wants_self_iff ha]
    exact and_iff_right hrow
  · exact ⟨load_none config source subId id, load_some config source subId id⟩

/-- Of two subscriptions, rows whose names differ in a blank: the one with the blank is out of reach
of its name, and a name with blanks around it reaches the other, which is there twice. -/
theorem records_queried_by_name_twice :
    let named := fun a ↦ Record.empty.put .apn a
    let rows : List Row := [⟨1, named "a"⟩, ⟨2, named "a"⟩, ⟨1, named "a "⟩, ⟨1, named "a"⟩]
    let t := Table.empty.insertAll rows
    t.query (.ofName 1 (some " a\t")) = [named "a", named "a"] ∧
      (t.query (.ofName 1 (some " a\t"))).count (named "a") = 2 ∧
      (named "a").value .apn = some "a" ∧ named "a" ∈ t.query (.ofName 1 (some "a")) ∧
      (named "a ").value .apn = some "a " ∧ named "a " ∉ t.query (.ofName 1 (some "a ")) := by
  intro named rows t
  obtain ⟨hquery, hcount, hself, -⟩ := records_queried_by_name .empty rows
  refine ⟨(hquery 1 (some " a\t")).trans (by decide +kernel),
    (hcount 1 (some " a\t") _).trans (by decide +kernel), rfl, ?_, rfl, ?_⟩
  · exact (hself ⟨1, named "a"⟩ List.mem_cons_self "a" rfl).2 (.inl (by simp [isBlank]))
  · refine (hself ⟨1, named "a "⟩ ?_ "a " rfl).not.2 (by simp [isBlank])
    exact .tail _ (.tail _ (.head _))

end AccessPoint

import AccessPoint.Proofs.Record.Tables
import AccessPoint.Proofs.Selection.Alike

/-!
# Absent and empty values

A value that is set may be empty. Each of the ways in which a lookup reads a record takes such a
value for an absent one:

* a list of types that is empty serves every request, as one that is absent does (`serves_filled?`);
* a trimmed value of an empty text is no value (`present?_filled?`);
* the name that a query compares has something in it, so an empty name of a record is never the one
  that is asked for (`Record.SameFilled.accepts_ofName_eq`);
* the description names the columns in which there is something (`filter_toColumns`).

So all of them factor through what is `filled` in the record, and two tables in which the same is
filled give the same log and the same answer (`lookup_blind_to_empty`).

For the types this takes a word more, since the log shows the types of a row that is skipped. But a
list of types that is not served is filled (`filled?_eq_self_of_not_serves`), so what is shown of it
is the same. That a selection follows the candidates only as far as these readings go is
`Selection.Alike`, and `Record.SameFilled.alike` brings the two together.
-/

namespace AccessPoint

open Text (present?)

/-- An optional text, if there is something in it. -/
def filled? (v : Option String) : Option String := v.filter (· ≠ "")

/-- The records have the same values, but that an empty one may stand for an absent one. -/
def Record.SameFilled (r q : Record) : Prop := ∀ c, filled? (r.value c) = filled? (q.value c)

instance (r q : Record) : Decidable (r.SameFilled q) :=
  decidable_of_iff (∀ c ∈ Column.all, filled? (r.value c) = filled? (q.value c))
    ⟨fun h c ↦ h c c.mem_all, fun h c _ ↦ h c⟩

/-- The tables have as many rows, and row by row the same subscription and the same values, but that
an empty one may stand for an absent one. -/
def Table.SameFilled (t u : Table) : Prop :=
  List.Forall₂ (fun a b ↦ a.subId = b.subId ∧ a.record.SameFilled b.record) t.rows u.rows

variable {r q : Record} {rs qs : List Record} {t u : Table} {v : Option String} {s : String}

/-! ### What is filled is all that is read -/

theorem filled?_eq_some_iff : filled? v = some s ↔ v = some s ∧ s ≠ "" := by
  rw [filled?, Option.filter_eq_some_iff, decide_eq_true_eq]

/-- Only an empty text is not filled. -/
theorem filled?_eq_self_or (v : Option String) :
    filled? v = v ∨ v = some "" ∧ filled? v = none := by
  rcases v with - | s
  · exact .inl rfl
  · by_cases hs : s = ""
    · exact .inr ⟨congrArg some hs, by simp [filled?, hs]⟩
    · exact .inl (filled?_eq_some_iff.2 ⟨rfl, hs⟩)

/-- Trimming leaves nothing of an empty text. -/
theorem present?_filled? (v : Option String) : present? (filled? v) = present? v := by
  rcases filled?_eq_self_or v with h | ⟨rfl, h⟩
  · rw [h]
  · rw [h, Text.present?_none, Text.present?_empty]

/-- An empty list of types serves what an absent one does. -/
theorem serves_filled? (v : Option String) (requested : String) :
    Types.serves (filled? v) requested = Types.serves v requested := by
  rcases filled?_eq_self_or v with h | ⟨rfl, h⟩
  · rw [h]
  · rw [h]
    rfl

/-- Types that do not serve every request are filled. -/
theorem filled?_eq_self_of_not_serves (h : ¬Types.serves v s) : filled? v = v := by
  rcases filled?_eq_self_or v with hfilled | ⟨rfl, -⟩
  · exact hfilled
  · exact absurd rfl h

/-- The columns that the description names are those that are filled. -/
theorem filter_toColumns (r : Record) :
    r.toColumns.filter (fun (_, v) ↦ v ≠ "") =
      Column.all.filterMap fun c ↦ (filled? (r.value c)).map fun v ↦ (c.label, v) := by
  rw [Record.toColumns, Record.columns_eq_map, List.filterMap_map, List.filter_filterMap]
  congr 1
  funext c
  exact Option.filter_map

namespace Record.SameFilled

theorem description_eq (h : r.SameFilled q) : r.description = q.description := by
  rw [Record.description, Record.description, filter_toColumns, filter_toColumns]
  simp only [h _]

theorem present?_eq (h : r.SameFilled q) (c : Column) :
    present? (r.value c) = present? (q.value c) := by
  rw [← present?_filled?, h c, present?_filled?]

theorem ofRecord_eq (h : r.SameFilled q) : ProxyChoice.ofRecord r = ProxyChoice.ofRecord q := by
  rw [ProxyChoice.ofRecord, ProxyChoice.ofRecord, ProxyChoice.readPort, ProxyChoice.readPort,
    h.present?_eq .mmsProxy, h.present?_eq .mmsPort]

/-- A selection does not tell the two records apart, whatever is requested. -/
theorem alike (h : r.SameFilled q) (requested : String) : Selection.Alike requested r q where
  serves := by rw [← serves_filled?, h .type, serves_filled?]
  types := by
    intro hr
    have hq : ¬Types.serves (q.value .type) requested := by
      rwa [← serves_filled?, ← h .type, serves_filled?]
    rw [← filled?_eq_self_of_not_serves hr, h .type, filled?_eq_self_of_not_serves hq]
  mmsc := h.present?_eq .mmsc
  proxy := h.ofRecord_eq

theorem settings_eq (h : r.SameFilled q) (url : String) :
    Selection.settings r url = Selection.settings q url := by
  rw [Selection.settings, Selection.settings, h.ofRecord_eq, h.description_eq]

/-- The records have the same texts in which there is something. -/
theorem value_eq_some_iff (h : r.SameFilled q) (c : Column) (hs : s ≠ "") :
    r.value c = some s ↔ q.value c = some s := by
  rw [← and_iff_left (a := r.value c = some s) hs, ← filled?_eq_some_iff, h c,
    filled?_eq_some_iff, and_iff_left hs]

/-- The name that a query compares has something in it. -/
theorem accepts_ofName_eq (h : r.SameFilled q) (subId : Int32) (name : Option String) :
    (Query.ofName subId name).accepts r = (Query.ofName subId name).accepts q := by
  rw [Query.accepts, Query.accepts, Query.ofName]
  rcases hname : present? name with - | name
  · rfl
  · have hiff := h.value_eq_some_iff .apn (Text.ne_empty_of_present? hname)
    exact Bool.eq_iff_iff.2 (by simpa using hiff)

/-- A selection cannot tell the candidates apart, and describes them in the same way. -/
theorem forall₂_alike (h : List.Forall₂ SameFilled rs qs) (requested : String) :
    List.Forall₂ (fun r q ↦ Selection.Alike requested r q ∧
      ∀ url, Selection.settings r url = Selection.settings q url) rs qs :=
  h.imp fun _ _ hrq ↦ ⟨hrq.alike requested, hrq.settings_eq⟩

end Record.SameFilled

/-- **Absent and empty are the same to a lookup.** Candidates that have the same values, but that an
empty one may stand for an absent one, give the same answer and the same log, entry by entry. So do
tables with such rows, for the same subscriptions, in every lookup. -/
theorem lookup_blind_to_empty (rs qs : List Record) (t u : Table) :
    (List.Forall₂ Record.SameFilled rs qs → ∀ requested id : String,
      (resolve rs requested id).result = (resolve qs requested id).result ∧
        (resolve rs requested id).entries = (resolve qs requested id).entries) ∧
    (t.SameFilled u → ∀ (config : Config) (name : Option String) (subId : Int32) (id : String),
      (load config (.ofTable t) name subId id).result =
          (load config (.ofTable u) name subId id).result ∧
        (load config (.ofTable t) name subId id).entries =
          (load config (.ofTable u) name subId id).entries) := by
  constructor
  · intro h requested id
    obtain ⟨hentries, hanswers⟩ :=
      Selection.resolve_alike (Record.SameFilled.forall₂_alike h requested) id
    exact ⟨hanswers.eq, hentries⟩
  · intro h config name subId id
    have hcandidates := Table.query_forall₂ (q := .ofName subId (name <|> config.apnName)) h
      fun r q hrq ↦ hrq.accepts_ofName_eq subId _
    obtain ⟨hentries, hanswers⟩ :=
      load_ofTable_alike (Record.SameFilled.forall₂_alike hcandidates config.apnType) id
    exact ⟨hanswers.eq, hentries⟩

/-- Two rows of which the first is passed over and the second selected, with empty values in
different columns. -/
theorem lookup_blind_to_empty_two_rows :
    let m := Record.empty.put .mmsc "http://m/"
    let t := (Table.empty.insert 1 ((Record.empty.put .type "supl").put .user "")).insert 1
      ((m.put .type "").put .mmsPort "")
    let u := (Table.empty.insert 1 ((Record.empty.put .type "supl").put .mmsc "")).insert 1
      ((m.put .mmsProxy "").put .apn "")
    t ≠ u ∧ t.SameFilled u ∧
      (load {} (.ofTable t) (some " ") 1 "req").result =
        (load {} (.ofTable u) (some " ") 1 "req").result ∧
      (load {} (.ofTable t) (some " ") 1 "req").entries =
        (load {} (.ofTable u) (some " ") 1 "req").entries := by
  intro m t u
  have h : t.SameFilled u := .cons ⟨rfl, by decide⟩ (.cons ⟨rfl, by decide⟩ .nil)
  exact ⟨by decide, h, (lookup_blind_to_empty [] [] t u).2 h {} (some " ") 1 "req"⟩

end AccessPoint

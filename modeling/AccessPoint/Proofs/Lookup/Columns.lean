import AccessPoint.Proofs.Selection.Alike

/-!
# The columns that a lookup reads

A lookup asks for the access point name of a row, its types, and the addresses of the MMSC, the
proxy and its port (`lookupColumns`). Tables that agree on these columns row by row give the same
log and lead to the same addresses (`load_blind_to_other_columns`). Whatever else a row holds, such
as a user name and a password, is seen in the description of settings only.

The name settles which rows are candidates (`Record.AgreeOn.accepts_eq`), the other four columns
what a selection makes of a candidate (`Record.AgreeOn.alike`). The two tables have candidates in
the same places, and `load_ofTable_alike` carries the agreement from the candidates through the
selection to the log and the answer. That a description does name the other columns is shown by the
case below, where two passwords lead to different settings.
-/

namespace AccessPoint

/-- The columns that a lookup reads. -/
def lookupColumns : List Column := [.type, .mmsc, .mmsProxy, .mmsPort, .apn]

/-- The records have the same values in the columns. -/
def Record.AgreeOn (columns : List Column) (r q : Record) : Prop :=
  ∀ c ∈ columns, r.value c = q.value c

instance (columns : List Column) (r q : Record) : Decidable (r.AgreeOn columns q) :=
  inferInstanceAs (Decidable (∀ c ∈ columns, r.value c = q.value c))

/-- The tables have as many rows, and row by row the same subscription and the same values in the
columns. -/
def Table.AgreeOn (columns : List Column) (t u : Table) : Prop :=
  List.Forall₂ (fun a b ↦ a.subId = b.subId ∧ a.record.AgreeOn columns b.record) t.rows u.rows

variable {r q : Record} {t u : Table}

/-- A selection does not tell records apart that agree on the columns. -/
theorem Record.AgreeOn.alike (h : r.AgreeOn lookupColumns q) (requested : String) :
    Selection.Alike requested r q where
  serves := by rw [h .type (by decide)]
  types := fun _ ↦ h .type (by decide)
  mmsc := by rw [h .mmsc (by decide)]
  proxy := by
    rw [ProxyChoice.ofRecord, ProxyChoice.ofRecord, h .mmsProxy (by decide),
      h .mmsPort (by decide)]

/-- A query compares the access point name, which is one of the columns. -/
theorem Record.AgreeOn.accepts_eq (h : r.AgreeOn lookupColumns q) (query : Query) :
    query.accepts r = query.accepts q := by
  rw [Query.accepts, Query.accepts, h .apn (by decide)]

/-- **What a lookup does not read it neither logs nor follows.** If two tables agree row by row on
the subscription and on the columns that a lookup reads, then every lookup logs the same in both,
entry by entry, and fails with the same error or gives settings that lead over the same addresses.
Only the descriptions of the settings may differ. -/
theorem load_blind_to_other_columns (h : t.AgreeOn lookupColumns u) (config : Config)
    (name : Option String) (subId : Int32) (id : String) :
    (load config (.ofTable t) name subId id).entries =
        (load config (.ofTable u) name subId id).entries ∧
      AnswersAgree Settings.SameRoute (load config (.ofTable t) name subId id).result
        (load config (.ofTable u) name subId id).result := by
  have hcandidates := Table.query_forall₂ (q := .ofName subId (name <|> config.apnName)) h
    fun r q hrq ↦ hrq.accepts_eq _
  exact load_ofTable_alike
    (hcandidates.imp fun r q hrq ↦ ⟨hrq.alike _, (hrq.alike config.apnType).sameRoute⟩) id

/-- Two tables with other passwords, and a row for another subscription: the settings differ, since
they are described by the row. -/
theorem load_blind_to_password :
    let row := fun password ↦ ((Record.empty.put .mmsc "http://010.0.0.1/").put .mmsPort "80").put
      .password password
    let t := (Table.empty.insert 2 (row "b")).insert 1 (row "hunter2")
    let u := (Table.empty.insert 2 (row "c")).insert 1 (row "")
    t.AgreeOn lookupColumns u ∧
      (load {} (.ofTable t) none 1 "req").entries = (load {} (.ofTable u) none 1 "req").entries ∧
      AnswersAgree Settings.SameRoute (load {} (.ofTable t) none 1 "req").result
        (load {} (.ofTable u) none 1 "req").result ∧
      (load {} (.ofTable t) none 1 "req").result ≠ (load {} (.ofTable u) none 1 "req").result := by
  intro row t u
  have h : t.AgreeOn lookupColumns u :=
    .cons ⟨rfl, by decide⟩ (.cons ⟨rfl, by decide⟩ .nil)
  obtain ⟨hentries, hanswers⟩ := load_blind_to_other_columns h {} none 1 "req"
  exact ⟨h, hentries, hanswers, by decide +kernel⟩

end AccessPoint

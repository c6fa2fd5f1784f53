import AccessPoint.Proofs.Settings
import AccessPoint.Proofs.Table

/-!
# Two selections side by side

Two records are *alike* for a requested type if a selection cannot tell them apart: it passes both
over for the same reason, or finds the same MMSC and the same proxy in them (`Alike`). All that
settings have from elsewhere in a record is their description, and that is not logged
(`entry_selected_eq`). So when the candidates of two selections are alike one by one, each step logs
the same (`Alike.decideBy`), hence so does the whole run, and the answers differ at most in what the
records are described by (`resolve_alike`).

How far two answers may differ is a parameter: `AnswersAgree ρ` says that both are the same error,
or settings that `ρ` relates. With equality for `ρ` the answers are equal, and with
`Settings.SameRoute` they lead over the same addresses. A comparison of two tables then needs two
things only, that their candidates are alike one by one and that the settings of alike candidates
are related; `load_ofTable_alike` does the rest, for the log with the answer.

The types of a record are compared only where they do not serve the request. This is because a
record that is skipped has its types shown in the log, whereas of one that serves it matters no more
which of its types did.
-/

namespace AccessPoint

open Log (Entry Event)
open Text (present?)

/-- Both answers are the same error, or settings that are related. -/
inductive AnswersAgree (ρ : Settings → Settings → Prop) :
    Except Error Settings → Except Error Settings → Prop
  | error (e : Error) : AnswersAgree ρ (.error e) (.error e)
  | ok {s t : Settings} (h : ρ s t) : AnswersAgree ρ (.ok s) (.ok t)

theorem AnswersAgree.eq {a b : Except Error Settings} (h : AnswersAgree (· = ·) a b) : a = b := by
  cases h with
  | error e => rfl
  | ok h => rw [h]

/-- An entry shows nothing of settings but where they lead. -/
theorem entry_selected_eq {s t : Settings} (h : s.SameRoute t) (index : Nat)
    (span : Option String) :
    (Event.selected index s).entry span = (Event.selected index t).entry span := by
  rw [Event.entry, Event.entry, Event.fields, Event.fields, h.mmscUrl, h.proxyAddress, h.proxyPort]
  rfl

namespace Selection

variable {ρ : Settings → Settings → Prop} {r q : Record} {rs qs : List Record}
  {requested : String} {index : Nat} {span : Option String}

/-- A selection takes the same step at both records, and logs the same. -/
structure Alike (requested : String) (r q : Record) : Prop where
  serves : Types.serves (r.value .type) requested = Types.serves (q.value .type) requested
  /-- Types that do not serve are logged. -/
  types : ¬Types.serves (r.value .type) requested → r.value .type = q.value .type
  mmsc : present? (r.value .mmsc) = present? (q.value .mmsc)
  proxy : ProxyChoice.ofRecord r = ProxyChoice.ofRecord q

namespace Alike

/-- Alike records give settings that lead over the same addresses. -/
theorem sameRoute (h : Alike requested r q) (url : String) :
    (settings r url).SameRoute (settings q url) where
  mmscUrl := rfl
  proxyAddress := by rw [proxyAddress_settings, proxyAddress_settings, h.proxy]
  proxyPort := by rw [proxyPort_settings, proxyPort_settings, h.proxy]

/-- The step that decides. -/
theorem decideBy (h : Alike requested r q) (hρ : ∀ url, ρ (settings r url) (settings q url))
    (mmsc : String) :
    (decideBy index r mmsc).2.map (Event.entry span) =
        (decideBy index q mmsc).2.map (Event.entry span) ∧
      AnswersAgree ρ (decideBy index r mmsc).1 (decideBy index q mmsc).1 := by
  simp only [Selection.decideBy, h.proxy]
  split
  · refine ⟨?_, .ok (hρ _)⟩
    rw [List.map_append, List.map_append, List.map_singleton, List.map_singleton,
      entry_selected_eq (h.sameRoute _)]
  · exact ⟨rfl, .error _⟩

end Alike

/-- Candidates that are alike one by one, and give related settings, lead to the same log and to
answers that agree. -/
theorem select_alike
    (h : List.Forall₂ (fun r q ↦ Alike requested r q ∧ ∀ url, ρ (settings r url) (settings q url))
      rs qs) :
    (select requested index rs).2.map (Event.entry span) =
        (select requested index qs).2.map (Event.entry span) ∧
      AnswersAgree ρ (select requested index rs).1 (select requested index qs).1 := by
  induction h generalizing index with
  | nil => exact ⟨rfl, .error _⟩
  | @cons r q rs qs hrq _ ih =>
    obtain ⟨halike, hρ⟩ := hrq
    obtain ⟨hentries, hanswers⟩ := @ih (index + 1)
    rw [select, select, ← halike.serves, ← halike.mmsc]
    split
    · rcases present? (r.value .mmsc) with - | mmsc
      · refine ⟨?_, hanswers⟩
        rw [List.map_cons, List.map_cons, hentries]
      · exact halike.decideBy hρ mmsc
    · next hserves =>
      refine ⟨?_, hanswers⟩
      rw [List.map_cons, List.map_cons, hentries, halike.types hserves]

/-- The run over all candidates, with the log that it leaves. -/
theorem resolve_alike
    (h : List.Forall₂ (fun r q ↦ Alike requested r q ∧ ∀ url, ρ (settings r url) (settings q url))
      rs qs) (id : String) :
    (resolve rs requested id).entries = (resolve qs requested id).entries ∧
      AnswersAgree ρ (resolve rs requested id).result (resolve qs requested id).result :=
  select_alike h

end Selection

/-- Lookups whose candidates are alike one by one log the same, and their answers agree. -/
theorem load_ofTable_alike {ρ : Settings → Settings → Prop} {config : Config} {t u : Table}
    {name : Option String} {subId : Int32}
    (h : List.Forall₂ (fun r q ↦ Selection.Alike config.apnType r q ∧
        ∀ url, ρ (Selection.settings r url) (Selection.settings q url))
      (t.query (.ofName subId (name <|> config.apnName)))
      (u.query (.ofName subId (name <|> config.apnName)))) (id : String) :
    (load config (.ofTable t) name subId id).entries =
        (load config (.ofTable u) name subId id).entries ∧
      AnswersAgree ρ (load config (.ofTable t) name subId id).result
        (load config (.ofTable u) name subId id).result := by
  obtain ⟨hentries, hanswers⟩ := Selection.resolve_alike h id
  refine ⟨?_, hanswers⟩
  rw [entries_load_ofTable, entries_load_ofTable, hentries, h.length_eq]

end AccessPoint

import AccessPoint.Lookup
import AccessPoint.Proofs.Selection

/-!
# The log of a selection

A log is read here as an account of a selection, entry by entry and without its loop (`Account`).
Each candidate in front of the deciding one has one entry, with its index, which says why it was
passed over. The decision follows: the URL if it is no URI reference, or else the settings, behind a
warning if the port of the record gave way to the default. Nothing comes after. The four ways in
which a selection can end are the four constructors, and each fixes the whole log and not merely
what is in it.

A selection takes one step for each candidate. A step past a candidate puts one entry in front of
what follows (`select_cons_of_not_decides`), so the steps up to the deciding candidate put one entry
for each of them in front of its own (`select_append`). The account of the whole run is read off at
the first candidate that decides (`account_resolve`).

What an account tells beyond that is found by going through its constructors, and no more through
the run:

* every entry belongs to the request (`Account.span_eq`);
* among settings, a warning tells those with a port that was not in the record
  (`Account.exists_warn_iff`);
* no APN is valid exactly if there is one entry for each candidate, and each passes its candidate
  over (`Account.eq_noValidApn_iff`). Such entries are less urgent than those of a decision, so a
  log shows by itself that it ended without one.

The entries are written out with their texts and fields, so that nothing needs to be looked up in
the functions that make them.
-/

namespace AccessPoint

open Log (Entry Event Field)

/-- The record has a proxy with a port that is none: a text with something in it that denotes no
number up to 65535. Without a proxy its port does not count. -/
structure Record.HasFaultyPort (r : Record) : Prop where
  proxy : r.trimmed .mmsProxy ≠ ""
  port : r.trimmed .mmsPort ≠ ""
  not_denotes : ∀ n ≤ 65535, ¬Text.Numeral.Denotes (r.trimmed .mmsPort) n

namespace Selection

/-! ### The entries -/

/-- The entry for a candidate that does not decide. One that serves the type has no MMSC. -/
def passing (requested id : String) (index : Nat) (r : Record) : Entry :=
  if Types.serves (r.value .type) requested then
    ⟨.debug, "Skipping APN without MMSC", [("index", .number index)], some id⟩
  else
    ⟨.trace, "APN does not serve " ++ requested,
      [("index", .number index), ("types", .text (Text.quote? (r.value .type)))], some id⟩

/-- The entries for candidates that do not decide, the first of which has the given index. -/
def passings (requested id : String) (index : Nat) (rs : List Record) : List Entry :=
  rs.mapIdx fun i r ↦ passing requested id (index + i) r

/-- The entry for a URL that is no URI reference. -/
def refusal (id : String) (index : Nat) (url : String) : Entry :=
  ⟨.error, "Invalid MMSC url " ++ url, [("index", .number index)], some id⟩

/-- The entry for a port that is none. -/
def warning (id : String) (index : Nat) (port : String) (fault : Text.Numeral.Fault) : Entry :=
  ⟨.warn,
    "Invalid port " ++ port ++ ", use " ++ Nat.repr defaultProxyPort.toNat ++ ": " ++ fault.message,
    [("index", .number index)], some id⟩

/-- The entry for the settings that were selected. -/
def success (id : String) (index : Nat) (s : Settings) : Entry :=
  ⟨.info, "Selected APN",
    [("index", .number index), ("mmsc", .text s.mmscUrl),
      ("proxy", .text (Text.quote? s.proxyAddress)), ("port", .number s.proxyPort.toNat)],
    some id⟩

/-- The first candidate that decides stands behind those in `before`. -/
structure IsFirst (requested : String) (before : List Record) (r : Record) : Prop where
  none_before : ∀ q ∈ before, ¬decides requested q
  decides_self : decides requested r

/-- The account that a log gives of a selection: the candidates, the answer, and the entries. -/
inductive Account (requested id : String) :
    List Record → Except Error Settings → List Entry → Prop
  /-- No candidate decides, and every one is passed over. -/
  | exhausted {rs : List Record} (h : ∀ r ∈ rs, ¬decides requested r) :
    Account requested id rs (.error .noValidApn) (passings requested id 0 rs)
  /-- The URL of the deciding candidate is refused. -/
  | refused {before after : List Record} {r : Record} (h : IsFirst requested before r)
    (url : String) :
    Account requested id (before ++ r :: after) (.error (.invalidMmscUrl url))
      (passings requested id 0 before ++ [refusal id before.length url])
  /-- The deciding candidate gives settings. -/
  | selected {before after : List Record} {r : Record} (h : IsFirst requested before r)
    (s : Settings) (hport : ¬r.HasFaultyPort) :
    Account requested id (before ++ r :: after) (.ok s)
      (passings requested id 0 before ++ [success id before.length s])
  /-- The deciding candidate gives settings, with the default for its port. -/
  | substituted {before after : List Record} {r : Record} (h : IsFirst requested before r)
    (s : Settings) (hport : r.HasFaultyPort) (fault : Text.Numeral.Fault) :
    Account requested id (before ++ r :: after) (.ok s)
      (passings requested id 0 before ++
        [warning id before.length (r.trimmed .mmsPort) fault, success id before.length s])

/-- The entry passes over the candidate of the given index. -/
structure PassesOver (index : Nat) (e : Entry) : Prop where
  level : e.level = .trace ∨ e.level = .debug
  index : e.fields.lookup "index" = some (.number index)

variable {r : Record} {rs before after : List Record} {requested id : String} {index : Nat}
  {s : Settings} {e : Entry} {entries : List Entry} {answer : Except Error Settings}

/-- What is reported of a candidate that is passed over is its entry in the account. -/
theorem entry_passedOver :
    (passedOver requested index r).entry (some id) = passing requested id index r := by
  rw [passedOver, passing]
  split <;> rfl

/-- The first candidate has the given index, and the others count on from it. -/
theorem passings_cons :
    passings requested id index (r :: rs) =
      passing requested id index r :: passings requested id (index + 1) rs := by
  rw [passings, passings, List.mapIdx_cons]
  simp only [Nat.add_zero, Nat.add_comm 1, Nat.add_assoc]

theorem passesOver_passing : PassesOver index (passing requested id index r) := by
  rw [passing]
  split
  · exact ⟨.inr rfl, rfl⟩
  · exact ⟨.inl rfl, rfl⟩

/-- Passing over is logged for debugging or tracing only. -/
theorem level_of_mem_passings (h : e ∈ passings requested id index rs) :
    e.level = .trace ∨ e.level = .debug := by
  obtain ⟨i, hi, rfl⟩ := List.mem_mapIdx.1 h
  exact passesOver_passing.level

theorem span_of_mem_passings (h : e ∈ passings requested id index rs) : e.span = some id := by
  obtain ⟨i, hi, rfl⟩ := List.mem_mapIdx.1 h
  rw [passing]
  split <;> rfl

/-- There is one entry for each candidate. -/
theorem length_passings : (passings requested id index rs).length = rs.length :=
  List.length_mapIdx

/-- The entry for a candidate stands in the place of the candidate. -/
theorem getElem?_passings (i : Nat) :
    (passings requested id index rs)[i]? = rs[i]?.map (passing requested id (index + i)) :=
  List.getElem?_mapIdx

/-! ### Runs -/

theorem IsFirst.find? (h : IsFirst requested before r) :
    (before ++ r :: after).find? (decides requested) = some r :=
  List.find?_eq_some_iff_append.2
    ⟨h.decides_self, before, after, rfl, fun q hq ↦ by simpa using h.none_before q hq⟩

theorem exists_isFirst (h : rs.find? (decides requested) = some r) :
    ∃ before after, rs = before ++ r :: after ∧ IsFirst requested before r := by
  obtain ⟨hr, before, after, rfl, hbefore⟩ := List.find?_eq_some_iff_append.1 h
  exact ⟨before, after, rfl, fun q hq ↦ by simpa using hbefore q hq, hr⟩

/-- Candidates that do not decide are passed over one by one. -/
theorem select_append (h : ∀ q ∈ before, ¬decides requested q) (index : Nat) (rs : List Record)
    (id : String) :
    (select requested index (before ++ rs)).1 = (select requested (index + before.length) rs).1 ∧
      (select requested index (before ++ rs)).2.map (Event.entry (some id)) =
        passings requested id index before ++
          (select requested (index + before.length) rs).2.map (Event.entry (some id)) := by
  induction before generalizing index with
  | nil => exact ⟨rfl, rfl⟩
  | cons q before ih =>
    obtain ⟨hq, hbefore⟩ := List.forall_mem_cons.1 h
    obtain ⟨hresult, hentries⟩ := ih hbefore (index + 1)
    have hindex : index + (q :: before).length = index + 1 + before.length := by
      rw [List.length_cons]
      omega
    rw [List.cons_append, select_cons_of_not_decides hq, hindex, passings_cons, List.map_cons,
      entry_passedOver, hresult, hentries]
    exact ⟨rfl, rfl⟩

/-- A warning goes with a faulty port, and names it. -/
theorem fault_ofRecord (r : Record) :
    ¬r.HasFaultyPort ∧ (ProxyChoice.ofRecord r).fault = none ∨
      r.HasFaultyPort ∧
        ∃ fault, (ProxyChoice.ofRecord r).fault = some (r.trimmed .mmsPort, fault) := by
  rw [ProxyChoice.ofRecord, present?_value]
  by_cases hproxy : r.trimmed .mmsProxy = ""
  · rw [if_pos hproxy]
    exact .inl ⟨fun h ↦ h.proxy hproxy, rfl⟩
  · simp only [if_neg hproxy]
    rcases readPort_cases (r := r) .mmsPort with
      ⟨hempty, hport⟩ | ⟨n, hn, hle, hport⟩ | ⟨fault, hne, hread, hport⟩
    · rw [hport]
      exact .inl ⟨fun h ↦ h.port hempty, rfl⟩
    · rw [hport]
      exact .inl ⟨fun h ↦ h.not_denotes n hle hn, rfl⟩
    · rw [hport]
      exact .inr ⟨⟨hproxy, hne, Text.Numeral.not_denotes_of_read_eq_error hread⟩, fault, rfl⟩

/-- The log of a selection accounts for its answer. -/
theorem account_resolve (rs : List Record) (requested id : String) :
    Account requested id rs (resolve rs requested id).result (resolve rs requested id).entries := by
  show Account requested id rs (select requested 0 rs).1
    ((select requested 0 rs).2.map (Event.entry (some id)))
  rcases hfind : rs.find? (decides requested) with - | r
  · have h := List.find?_eq_none.1 hfind
    obtain ⟨hresult, hentries⟩ := select_append h 0 [] id
    rw [List.append_nil] at hresult hentries
    rw [hresult, hentries]
    show Account requested id rs (.error .noValidApn) (passings requested id 0 rs ++ [])
    rw [List.append_nil]
    exact .exhausted h
  · obtain ⟨before, after, rfl, h⟩ := exists_isFirst hfind
    obtain ⟨hresult, hentries⟩ := select_append h.none_before 0 (r :: after) id
    rw [hresult, hentries, select_cons_of_decides h.decides_self, Nat.zero_add, decideBy]
    split
    · rcases fault_ofRecord r with ⟨hport, hfault⟩ | ⟨hport, fault, hfault⟩
      · rw [hfault]
        exact .selected h _ hport
      · rw [hfault]
        exact .substituted h _ hport fault
    · exact .refused h _

/-! ### What an account tells -/

namespace Account

/-- All entries bear the name of the request. -/
theorem span_eq (h : Account requested id rs answer entries) :
    ∀ e ∈ entries, e.span = some id := by
  cases h with
  | exhausted => exact fun e he ↦ span_of_mem_passings he
  | refused | selected | substituted =>
    refine List.forall_mem_append.2 ⟨fun e he ↦ span_of_mem_passings he, ?_⟩
    simp [refusal, success, warning]

/-- Among settings, a warning tells those with a port that was not in the record. -/
theorem exists_warn_iff (h : Account requested id rs (.ok s) entries) :
    (∃ e ∈ entries, e.level = .warn) ↔
      ∃ r, rs.find? (decides requested) = some r ∧ r.HasFaultyPort := by
  cases h with
  | selected h s hport =>
    simp only [h.find?, Option.some.injEq, exists_eq_left', hport, iff_false]
    rintro ⟨e, he, hlevel⟩
    rcases List.mem_append.1 he with he | he
    · have hpassing := level_of_mem_passings he
      simp [hlevel] at hpassing
    · rw [List.mem_singleton.1 he] at hlevel
      cases hlevel
  | substituted h s hport fault =>
    simp only [h.find?, Option.some.injEq, exists_eq_left', hport, iff_true]
    exact ⟨_, List.mem_append_right _ List.mem_cons_self, rfl⟩

/-- Without a decision there is one entry for each candidate, and none that is more urgent than
those. A decision has such an entry. -/
theorem eq_noValidApn_iff (h : Account requested id rs answer entries) :
    answer = .error .noValidApn ↔
      entries.length = rs.length ∧ ∀ i e, entries[i]? = some e → PassesOver i e := by
  have hdecision : ∀ e ∈ entries, ¬(e.level = .trace ∨ e.level = .debug) →
      ¬(entries.length = rs.length ∧ ∀ i e, entries[i]? = some e → PassesOver i e) := by
    intro e he hlevel hall
    obtain ⟨i, hi⟩ := List.mem_iff_getElem?.1 he
    exact hlevel (hall.2 i e hi).level
  cases h with
  | exhausted =>
    refine iff_of_true rfl ⟨length_passings, fun i e he ↦ ?_⟩
    rw [getElem?_passings, Nat.zero_add] at he
    obtain ⟨r, -, rfl⟩ := Option.map_eq_some_iff.1 he
    exact passesOver_passing
  | @refused before after r h url =>
    refine iff_of_false (fun h ↦ nomatch h) ?_
    exact hdecision (refusal id before.length url) (by simp) (by simp [refusal])
  | @selected before after r h s hport =>
    refine iff_of_false (fun h ↦ nomatch h) ?_
    exact hdecision (success id before.length s) (by simp) (by simp [success])
  | @substituted before after r h s hport fault =>
    refine iff_of_false (fun h ↦ nomatch h) ?_
    exact hdecision (success id before.length s) (by simp) (by simp [success])

end Account

/-! ### The log of a lookup -/

/-- The entry with which a lookup begins. -/
def loading (id : String) (subId : Int32) (name : Option String) : Entry :=
  ⟨.info, "Loading APN using name " ++ Text.quote? name,
    [("request_id", .text id), ("sub_id", .number subId.toInt)], none⟩

/-- The entry for what a source has answered. -/
def fetched (id : String) (candidates : List Record) : Entry :=
  ⟨.debug, "Fetched APN candidates",
    [("request_id", .text id), ("count", .number candidates.length)], none⟩

/-- **The log is a faithful trace of the selection.** All of its entries stand in the span of the
request, and they account for the answer: one entry for each candidate in front of the deciding one,
and then the refusal of its URL or its settings. Settings come behind a warning exactly if the port
of the record is faulty, and no APN is valid exactly if the log passes over every candidate, once.

A lookup in any source logs its beginning outside the span. Then it fails as the source does, or it
logs how many candidates there are, also outside, and goes on as the selection among them. -/
theorem log_accounts_for_answer (id : String) :
    (∀ (rs : List Record) (requested : String),
      let selection := resolve rs requested id
      (∀ e ∈ selection.entries, e.span = some id) ∧
      Account requested id rs selection.result selection.entries ∧
      (∀ s, selection.result = .ok s →
        ((∃ e ∈ selection.entries, e.level = .warn) ↔
          ∃ r, rs.find? (decides requested) = some r ∧ r.HasFaultyPort)) ∧
      (selection.result = .error .noValidApn ↔
        selection.entries.length = rs.length ∧
          ∀ i e, selection.entries[i]? = some e → PassesOver i e)) ∧
    ∀ (config : Config) (source : Source) (apnName : Option String) (subId : Int32),
      let name := apnName <|> config.apnName
      let lookup := load config source apnName subId id
      match source (.ofName subId name) with
      | .error e => lookup.result = .error e ∧ lookup.entries = [loading id subId name]
      | .ok candidates =>
        let selection := resolve candidates config.apnType id
        lookup.result = selection.result ∧
          lookup.entries = loading id subId name :: fetched id candidates :: selection.entries := by
  constructor
  · intro rs requested selection
    have haccount : Account requested id rs selection.result selection.entries :=
      account_resolve rs requested id
    refine ⟨haccount.span_eq, haccount, fun s hs ↦ ?_, haccount.eq_noValidApn_iff⟩
    rw [hs] at haccount
    exact haccount.exists_warn_iff
  · intro config source apnName subId name lookup
    simp only [lookup, load]
    cases source (.ofName subId name) with
    | error e => exact ⟨rfl, rfl⟩
    | ok candidates => exact ⟨rfl, rfl⟩

/-- A row of another type, one without an MMSC, and one whose port gives way to the default. -/
example :
    let r := ((Record.empty.put .mmsc "http://m/").put .mmsProxy "p").put .mmsPort "80a"
    (resolve [Record.empty.put .type "supl", Record.empty, r, r] "mms" "req").entries =
      [⟨.trace, "APN does not serve mms",
          [("index", .number 0), ("types", .text "Some(\"supl\")")], some "req"⟩,
        ⟨.debug, "Skipping APN without MMSC", [("index", .number 1)], some "req"⟩,
        ⟨.warn, "Invalid port 80a, use 80: invalid digit found in string", [("index", .number 2)],
          some "req"⟩,
        ⟨.info, "Selected APN",
          [("index", .number 2), ("mmsc", .text "http://m/"), ("proxy", .text "Some(\"p\")"),
            ("port", .number 80)], some "req"⟩] := by
  decide +kernel

end Selection

end AccessPoint

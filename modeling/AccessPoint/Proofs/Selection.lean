import AccessPoint.Proofs.Text.Numeral
import AccessPoint.Selection

/-!
# Selection against a plain description

What the candidates give for a requested type is said here without a loop: the *deciding* record is
the first that serves the type and has an MMSC (`decides`), and it alone settles the outcome. If its
MMSC without padding is a URI reference, the settings are as the record has them (`Describes`);
otherwise the selection fails with that URL. Records before and after the deciding one do not count
(`result_decided_by_first`).

The selection takes one step for each record, and there are two: a record that decides ends it
(`select_cons_of_decides`), one that does not is reported and passed over
(`select_cons_of_not_decides`). With these, `select_fst` is a short induction, and the search with
`List.find?` takes the place of the loop. Everything else about the outcome is read off there; what
is logged on the way is in the account of a selection.

`outcome` is what the deciding record gives, without the number that it has among the candidates.
That `decideBy` gives the same whatever the number is (`outcome_eq_decideBy`), and that it never
answers that no APN is valid (`outcome_ne_noValidApn`), is what makes an answer final when further
candidates come behind (`result_resolve_append_of_ne`).

`Describes` says the fields by what they are, not by how they are read: the port is the number that
its text denotes, and 80 where there is no proxy or no such number.
-/

namespace AccessPoint

/-- The value of a column without the blanks at its ends; an absent one reads as empty. -/
def Record.trimmed (c : Column) (r : Record) : String := ((r.value c).map Text.trim).getD ""

namespace Selection

open Log (Event)
open Text (present?)

variable {r : Record} {rs : List Record} {requested id : String} {index : Nat}

/-- Whether a record serves the requested type and has an MMSC. -/
def decides (requested : String) (r : Record) : Bool :=
  Types.serves (r.value .type) requested && r.trimmed .mmsc != ""

/-- What is reported of a record that does not decide. -/
def passedOver (requested : String) (index : Nat) (r : Record) : Event :=
  if Types.serves (r.value .type) requested then .noMmsc index
  else .typeMismatch index (r.value .type) requested

/-- The settings are those that the record has: its URL and the address of its proxy without
padding, and the number of its port, for which 80 stands in when there is no proxy or no such
number. -/
structure Describes (r : Record) (s : Settings) : Prop where
  mmscUrl : s.mmscUrl = trimZeros (r.trimmed .mmsc)
  proxyAddress : s.proxyAddress =
    if r.trimmed .mmsProxy = "" then none else some (trimZeros (r.trimmed .mmsProxy))
  proxyPort :
    r.trimmed .mmsProxy ≠ "" ∧ Text.Numeral.Denotes (r.trimmed .mmsPort) s.proxyPort.toNat ∨
      (r.trimmed .mmsProxy = "" ∨ ∀ n ≤ 65535, ¬Text.Numeral.Denotes (r.trimmed .mmsPort) n) ∧
        s.proxyPort = 80
  description : s.description = r.description

/-! ### The fields of a deciding record -/

theorem proxyAddress_settings (r : Record) (url : String) :
    (settings r url).proxyAddress = (ProxyChoice.ofRecord r).address :=
  rfl

theorem proxyPort_settings (r : Record) (url : String) :
    (settings r url).proxyPort = (ProxyChoice.ofRecord r).port :=
  rfl

/-- A column is present exactly when trimming leaves something of it. -/
theorem present?_value (c : Column) :
    present? (r.value c) = if r.trimmed c = "" then none else some (r.trimmed c) := by
  rw [Record.trimmed]
  cases r.value c with
  | none => rfl
  | some v => by_cases h : Text.trim v = "" <;> simp [present?, h]

/-- What is read as a port: nothing and the default from a text with nothing in it, the number that
the text denotes, or the default beside the fault of a text that denotes no port number. -/
theorem readPort_cases (c : Column) :
    (r.trimmed c = "" ∧ ProxyChoice.readPort (r.value c) = (80, none)) ∨
      (∃ n : Nat, Text.Numeral.Denotes (r.trimmed c) n ∧ n ≤ 65535 ∧
        ProxyChoice.readPort (r.value c) = (n.toUInt16, none)) ∨
      ∃ fault, r.trimmed c ≠ "" ∧ Text.Numeral.read maxPort (r.trimmed c) = .error fault ∧
        ProxyChoice.readPort (r.value c) = (80, some (r.trimmed c, fault)) := by
  rw [ProxyChoice.readPort, present?_value]
  by_cases h : r.trimmed c = ""
  · exact .inl ⟨h, by simp [h, defaultProxyPort]⟩
  · simp only [if_neg h]
    cases hr : Text.Numeral.read maxPort (r.trimmed c) with
    | ok n =>
      obtain ⟨hn, hle⟩ := Text.Numeral.read_eq_ok_iff.1 hr
      exact .inr (.inl ⟨n, hn, hle, rfl⟩)
    | error fault => exact .inr (.inr ⟨fault, h, rfl, rfl⟩)

/-- The port that is read is the number that the text denotes, and 80 if it denotes none. -/
theorem readPort_fst (c : Column) :
    Text.Numeral.Denotes (r.trimmed c) (ProxyChoice.readPort (r.value c)).1.toNat ∨
      (∀ n ≤ 65535, ¬Text.Numeral.Denotes (r.trimmed c) n) ∧
        (ProxyChoice.readPort (r.value c)).1 = 80 := by
  rcases readPort_cases (r := r) c with ⟨h, hport⟩ | ⟨n, hn, hle, hport⟩ | ⟨fault, -, hr, hport⟩
  · rw [h, hport]
    exact .inr ⟨fun n _ ↦ Text.Numeral.not_denotes_empty n, rfl⟩
  · -- a number within the limit is not cut when it is made 16 bits wide
    have hsize : n < UInt16.size := Nat.lt_of_le_of_lt hle (by decide)
    rw [hport]
    refine .inl ?_
    show Text.Numeral.Denotes _ n.toUInt16.toNat
    rwa [UInt16.toNat_ofNat_of_lt' hsize]
  · rw [hport]
    exact .inr ⟨Text.Numeral.not_denotes_of_read_eq_error hr, rfl⟩

/-- The settings of a record describe it. -/
theorem describes_settings (r : Record) :
    Describes r (settings r (trimZeros (r.trimmed .mmsc))) where
  mmscUrl := rfl
  proxyAddress := by
    rw [proxyAddress_settings, ProxyChoice.ofRecord, present?_value]
    by_cases h : r.trimmed .mmsProxy = "" <;> simp [h]
  proxyPort := by
    rw [proxyPort_settings, ProxyChoice.ofRecord, present?_value]
    by_cases h : r.trimmed .mmsProxy = ""
    · simp [h, defaultProxyPort]
    · simp only [if_neg h]
      exact (readPort_fst .mmsPort).imp (⟨h, ·⟩) fun hd ↦ ⟨.inr hd.1, hd.2⟩
  description := rfl

/-! ### The deciding record -/

section DecideBy

variable {mmsc : String}

/-- A record whose MMSC is a URI reference without its padding gives settings. -/
theorem decideBy_fst_of_isReference (h : Uri.isReference (trimZeros mmsc)) :
    (decideBy index r mmsc).1 = .ok (settings r (trimZeros mmsc)) := by
  rw [decideBy, if_pos h]

/-- Any other MMSC is reported as it is without its padding. -/
theorem decideBy_fst_of_not_isReference (h : ¬Uri.isReference (trimZeros mmsc)) :
    (decideBy index r mmsc).1 = .error (.invalidMmscUrl (trimZeros mmsc)) := by
  rw [decideBy, if_neg h]

/-- A record that decides never leaves the selection without an answer. -/
theorem decideBy_fst_ne_noValidApn : (decideBy index r mmsc).1 ≠ .error .noValidApn := by
  by_cases h : Uri.isReference (trimZeros mmsc)
  · rw [decideBy_fst_of_isReference h]
    exact fun hok ↦ nomatch hok
  · rw [decideBy_fst_of_not_isReference h]
    exact fun herror ↦ nomatch herror

end DecideBy

/-- What a deciding record gives. -/
def outcome (r : Record) : Except Error Settings :=
  if Uri.isReference (trimZeros (r.trimmed .mmsc)) then
    .ok (settings r (trimZeros (r.trimmed .mmsc)))
  else .error (.invalidMmscUrl (trimZeros (r.trimmed .mmsc)))

theorem outcome_eq_decideBy (r : Record) (index : Nat) :
    outcome r = (decideBy index r (r.trimmed .mmsc)).1 := by
  rw [outcome]
  split
  · next h => rw [decideBy_fst_of_isReference h]
  · next h => rw [decideBy_fst_of_not_isReference h]

/-- A record that decides settles the selection, whatever follows it. -/
theorem select_cons_of_decides (h : decides requested r) :
    select requested index (r :: rs) = decideBy index r (r.trimmed .mmsc) := by
  rw [decides, Bool.and_eq_true, bne_iff_ne] at h
  rw [select, if_pos h.1, present?_value, if_neg h.2]

/-- A record that does not decide is reported and passed over. -/
theorem select_cons_of_not_decides (h : ¬decides requested r) :
    select requested index (r :: rs) =
      ((select requested (index + 1) rs).1,
        passedOver requested index r :: (select requested (index + 1) rs).2) := by
  rw [decides, Bool.and_eq_true, bne_iff_ne, not_and] at h
  rw [select, passedOver]
  by_cases hs : Types.serves (r.value .type) requested
  · rw [if_pos hs, if_pos hs, present?_value, if_pos (Decidable.not_not.1 (h hs))]
  · rw [if_neg hs, if_neg hs]

/-- The search for the deciding record takes the place of the loop. -/
theorem select_fst (requested : String) (index : Nat) (rs : List Record) :
    (select requested index rs).1 =
      ((rs.find? (decides requested)).map outcome).getD (.error .noValidApn) := by
  induction rs generalizing index with
  | nil => rfl
  | cons r rs ih =>
    by_cases h : decides requested r
    · rw [select_cons_of_decides h, ← outcome_eq_decideBy, List.find?_cons_of_pos h,
        Option.map_some, Option.getD_some]
    · rw [select_cons_of_not_decides h, List.find?_cons_of_neg h, ih]

/-- The answer is that of the first record which decides, if one does. -/
theorem resolve_result (rs : List Record) (requested id : String) :
    (resolve rs requested id).result =
      ((rs.find? (decides requested)).map outcome).getD (.error .noValidApn) :=
  select_fst requested 0 rs

/-- A record that decides gives settings or faults its URL. -/
theorem outcome_ne_noValidApn (r : Record) : outcome r ≠ .error .noValidApn := by
  rw [outcome_eq_decideBy r 0]
  exact decideBy_fst_ne_noValidApn

/-- Candidates count only behind others that give no valid APN. -/
theorem result_resolve_append_of_eq {qs : List Record}
    (h : (resolve rs requested id).result = .error .noValidApn) :
    (resolve (rs ++ qs) requested id).result = (resolve qs requested id).result := by
  rw [resolve_result] at h
  rw [resolve_result, resolve_result, List.find?_append]
  rcases hfind : rs.find? (decides requested) with - | r
  · rfl
  · rw [hfind, Option.map_some, Option.getD_some] at h
    exact absurd h (outcome_ne_noValidApn r)

/-- What candidates give stays when others follow. -/
theorem result_resolve_append_of_ne {qs : List Record}
    (h : (resolve rs requested id).result ≠ .error .noValidApn) :
    (resolve (rs ++ qs) requested id).result = (resolve rs requested id).result := by
  rw [resolve_result] at h
  rw [resolve_result, resolve_result, List.find?_append]
  rcases hfind : rs.find? (decides requested) with - | r
  · rw [hfind] at h
    exact absurd rfl h
  · rfl

/-- Settings are those of a record that decides. -/
theorem exists_of_resolve_eq_ok {s : Settings} (h : (resolve rs requested id).result = .ok s) :
    ∃ r ∈ rs, ∃ mmsc, present? (r.value .mmsc) = some mmsc ∧ Uri.isReference (trimZeros mmsc) ∧
      s = settings r (trimZeros mmsc) := by
  rw [resolve_result] at h
  rcases hfind : rs.find? (decides requested) with - | r
  · rw [hfind] at h
    cases h
  · rw [hfind, Option.map_some, Option.getD_some, outcome] at h
    split at h
    · next href =>
      have hdecides := List.find?_some hfind
      rw [decides, Bool.and_eq_true, bne_iff_ne] at hdecides
      refine ⟨r, List.mem_of_find?_eq_some hfind, r.trimmed .mmsc, ?_, href, ?_⟩
      · rw [present?_value, if_neg hdecides.2]
      · exact (Except.ok.inj h).symm
    · cases h

/-- **Selection is decided by the first record that serves the type and has an MMSC.** If there is
none, no APN is valid. Otherwise the outcome is that record's own: its settings if its MMSC without
padding is a URI reference, and else a failure that names this text. What stands before or after it
makes no difference. -/
theorem result_decided_by_first (rs : List Record) (requested id : String) :
    (match rs.find? (decides requested) with
      | none => (resolve rs requested id).result = .error .noValidApn
      | some r =>
        let url := trimZeros (r.trimmed .mmsc)
        if Uri.isReference url then
          ∃ s, (resolve rs requested id).result = .ok s ∧ Describes r s
        else (resolve rs requested id).result = .error (.invalidMmscUrl url)) ∧
      ∀ before r after, rs = before ++ r :: after → (∀ q ∈ before, ¬decides requested q) →
        decides requested r →
          (resolve rs requested id).result = (resolve [r] requested id).result := by
  constructor
  · rw [resolve_result]
    cases rs.find? (decides requested) with
    | none => rfl
    | some r =>
      simp only [Option.map_some, Option.getD_some, outcome]
      -- whether the URL is a reference is not to be computed
      generalize Uri.isReference (trimZeros (r.trimmed .mmsc)) = accepted
      cases accepted with
      | false => rfl
      | true => exact ⟨_, rfl, describes_settings r⟩
  · rintro before r after rfl hbefore hr
    have hfind : (before ++ r :: after).find? (decides requested) = some r := by
      rw [List.find?_append, List.find?_eq_none.2 hbefore, List.find?_cons_of_pos hr]
      rfl
    rw [resolve_result, resolve_result, hfind, List.find?_cons_of_pos hr]

end Selection

end AccessPoint

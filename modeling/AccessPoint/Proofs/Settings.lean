import AccessPoint.Proofs.Address.Zeros.Canonical
import AccessPoint.Proofs.Selection.Single

/-!
# The settings that a selection gives

Texts in settings come out of two normalisations, trimming and the dropping of padding. Neither
undoes the other, so what comes out is left as it is by both (`isClean_trimZeros`). The order counts
for this: a text is trimmed first, and dropping zeros from a trimmed text bares no blank, since
padding stands in front of digits (`trim_trimZeros`). The settings of a selection are made of such
texts, and their URL has been checked as it stands (`WellFormed`).

Settings of this kind are stable: a record that says no more than they do gives their addresses
again, for whatever type it is asked (`WellFormed.result_resolve_toRecord`). Each field has its own
reason. A clean text is read as it is, the URL has passed the check that it is put to again, the
port comes back from its decimal text, and without a proxy the port is the default on both sides.

What holds of the settings of a record that decides (`Selection.wellFormed_settings`) thus holds of
every answer with settings (`Selection.settings_stable_under_selection`). Only the description
changes, since it tells of the record that the settings are from.
-/

namespace AccessPoint

open Text (present?)

/-- A text with something in it, and with nothing to trim and no padding to drop. -/
structure IsClean (s : String) : Prop where
  ne_empty : s ≠ ""
  trim_eq : Text.trim s = s
  trimZeros_eq : trimZeros s = s

/-- What is present in a column is clean once its padding is dropped. -/
theorem isClean_trimZeros {v : Option String} {s : String} (h : present? v = some s) :
    IsClean (trimZeros s) where
  ne_empty := trimZeros_eq_empty_iff.not.2 (Text.ne_empty_of_present? h)
  trim_eq := trim_trimZeros (Text.trim_of_present? h)
  trimZeros_eq := trimZeros_trimZeros s

theorem IsClean.present? {s : String} (h : IsClean s) : present? (some s) = some s :=
  Text.present?_of_trim h.trim_eq h.ne_empty

namespace Settings

variable {s t : Settings}

/-- The settings lead over the same addresses; where they came from may differ. -/
structure SameRoute (s t : Settings) : Prop where
  mmscUrl : s.mmscUrl = t.mmscUrl
  proxyAddress : s.proxyAddress = t.proxyAddress
  proxyPort : s.proxyPort = t.proxyPort

/-- The addresses are clean, the URL is a URI reference, and without a proxy the port is the
default. -/
structure WellFormed (s : Settings) : Prop where
  mmscUrl : IsClean s.mmscUrl
  isReference : Uri.isReference s.mmscUrl
  proxyAddress : ∀ p ∈ s.proxyAddress, IsClean p
  proxyPort : s.proxyAddress = none → s.proxyPort = 80

/-- The record that says where the settings lead, and nothing else. -/
def toRecord (s : Settings) : Record :=
  .ofAddresses (some s.mmscUrl) s.proxyAddress (some s.proxyPort)

namespace WellFormed

/-- A proxy that is named is one to go through. -/
theorem isProxySet_iff (h : s.WellFormed) : s.isProxySet ↔ s.proxyAddress.isSome := by
  rw [isProxySet]
  rcases hp : s.proxyAddress with - | p
  · simp
  · have hne : p ≠ "" := (h.proxyAddress p hp).ne_empty
    simp [hne]

/-- The record of the settings names their proxy and its port. -/
theorem ofRecord_toRecord (h : s.WellFormed) :
    ProxyChoice.ofRecord s.toRecord = ⟨s.proxyAddress, s.proxyPort, none⟩ := by
  rw [toRecord, ProxyChoice.ofRecord_ofAddresses]
  rcases hp : s.proxyAddress with - | p
  · rw [h.proxyPort hp]
    rfl
  · have hclean := h.proxyAddress p hp
    rw [hclean.present?]
    show ProxyChoice.mk (some (trimZeros p)) s.proxyPort none = _
    rw [hclean.trimZeros_eq]

/-- Selected by themselves, the addresses of the settings are found as they are. -/
theorem result_resolve_toRecord (h : s.WellFormed) (requested id : String) :
    (resolve [s.toRecord] requested id).result =
      .ok { s with description := s.toRecord.description } := by
  have href : Uri.isReference (trimZeros s.mmscUrl) := by
    rw [h.mmscUrl.trimZeros_eq]
    exact h.isReference
  have hresult : (resolve [s.toRecord] requested id).result = _ :=
    Selection.result_resolve_ofAddresses_of_eq_some h.mmscUrl.present? requested id
  rw [Selection.decideBy_fst_of_isReference href, h.mmscUrl.trimZeros_eq] at hresult
  refine hresult.trans ?_
  show Except.ok (Settings.mk s.mmscUrl (ProxyChoice.ofRecord s.toRecord).address
    (ProxyChoice.ofRecord s.toRecord).port s.toRecord.description) = _
  rw [h.ofRecord_toRecord]

end WellFormed

end Settings

namespace Selection

variable {r : Record} {rs : List Record} {s : Settings} {mmsc requested id : String}

/-- A record with a URI reference for an MMSC gives well-formed settings. -/
theorem wellFormed_settings (hmmsc : present? (r.value .mmsc) = some mmsc)
    (href : Uri.isReference (trimZeros mmsc)) : (settings r (trimZeros mmsc)).WellFormed where
  mmscUrl := isClean_trimZeros hmmsc
  isReference := href
  proxyAddress := by
    intro p hp
    rw [proxyAddress_settings, ProxyChoice.address_ofRecord] at hp
    obtain ⟨proxy, hproxy, rfl⟩ := Option.map_eq_some_iff.1 hp
    exact isClean_trimZeros hproxy
  proxyPort := ProxyChoice.port_ofRecord_of_address_eq_none

/-- **Resolved settings are well formed and stable.** Whatever the candidates, the settings of a
selection have a clean URL that is a URI reference, and a clean proxy address or none, in which case
the port is 80; a proxy counts as set exactly if there is one. And a record that says no more than
the settings do leads over the same addresses again, whatever type is requested. -/
theorem settings_stable_under_selection (h : (resolve rs requested id).result = .ok s) :
    s.WellFormed ∧ (s.isProxySet ↔ s.proxyAddress.isSome) ∧
      ∀ requested' id', ∃ s', (resolve [s.toRecord] requested' id').result = .ok s' ∧
        s'.SameRoute s := by
  obtain ⟨r, -, mmsc, hmmsc, href, rfl⟩ := exists_of_resolve_eq_ok h
  have hwf := wellFormed_settings hmmsc href
  refine ⟨hwf, hwf.isProxySet_iff, fun requested' id' ↦ ?_⟩
  exact ⟨_, hwf.result_resolve_toRecord requested' id', ⟨rfl, rfl, rfl⟩⟩

/-- Addresses with blanks around them and zeros in front, from a record behind one of another
type. -/
theorem settings_stable_padded_addresses :
    let padded := ((Record.empty.put .mmsc " http://010.0.0.1/mms\t").put
      .mmsProxy "001.02.3.4 ").put .mmsPort " +08080"
    let s : Settings := ⟨"http://10.0.0.1/mms", some "1.2.3.4", 8080, padded.description⟩
    (resolve [(Record.empty.put .type "supl").put .mmsc "http://m/", padded] "mms" "first").result =
        .ok s ∧
      s.WellFormed ∧ s.isProxySet ∧
        ∃ s', (resolve [s.toRecord] "supl" "again").result = .ok s' ∧ s'.SameRoute s := by
  intro padded s
  have h : (resolve [(Record.empty.put .type "supl").put .mmsc "http://m/", padded] "mms"
      "first").result = .ok s := by decide +kernel
  obtain ⟨hwf, hset, hagain⟩ := settings_stable_under_selection h
  exact ⟨h, hwf, hset.2 rfl, hagain "supl" "again"⟩

end Selection

end AccessPoint

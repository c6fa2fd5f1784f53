import AccessPoint.Network.Basic
import AccessPoint.Proofs.Selection.Single

/-!
# Network APNs and selection

An APN from the network layer is turned into settings without a selection. The same choices are made
as for a record that names the same addresses and no types (`toRecord`): the MMSC must be there, and
the port counts only beside a proxy. The two ways differ in what they do to the addresses, which a
selection rids of padding, and in the check of the URL, which the direct way leaves out
(`settings?_agrees_with_selection`).

So the statement is not that both give the same. It says for each answer of the one what the other
answers: nothing on one side goes with no valid APN on the other, and settings go with settings
whose addresses are those without padding, or with a refusal that names the URL without padding.

The port makes a detour on the side of the record, which holds it in decimal; that it comes back is
`ProxyChoice.readPort_repr`. A record of addresses names no types and hence serves every type, so
which one is requested does not matter.
-/

namespace AccessPoint.NetworkApn

open Text (present?)

/-- The record of an APN: it names the same addresses, and nothing else. -/
def toRecord (apn : NetworkApn) : Record :=
  .ofAddresses apn.mmsc apn.mmsProxyAddress apn.mmsProxyPort

variable {apn : NetworkApn} {n : Settings}

/-- There are settings exactly if there is an MMSC. -/
theorem settings?_eq_none_iff : apn.settings? = none ↔ present? apn.mmsc = none := by
  rw [settings?, Option.map_eq_none_iff]

/-- The URL of the settings is the MMSC, trimmed. -/
theorem present?_mmsc (h : apn.settings? = some n) : present? apn.mmsc = some n.mmscUrl := by
  obtain ⟨mmsc, hmmsc, rfl⟩ := Option.map_eq_some_iff.1 h
  rw [hmmsc]
  rcases present? apn.mmsProxyAddress with - | proxy <;> rfl

/-- The proxy of the APN's record is that of the APN's settings without padding. -/
theorem ofRecord_toRecord (h : apn.settings? = some n) :
    ProxyChoice.ofRecord apn.toRecord = ⟨n.proxyAddress.map trimZeros, n.proxyPort, none⟩ := by
  obtain ⟨mmsc, -, rfl⟩ := Option.map_eq_some_iff.1 h
  rw [toRecord, ProxyChoice.ofRecord_ofAddresses]
  rcases present? apn.mmsProxyAddress with - | proxy <;> rfl

/-- **The network layer's APN and a selection agree** on the record that names the same addresses
and no types. Both give nothing if there is no MMSC. Otherwise the selection fails with the URL of
the APN's settings, without padding, if that is no URI reference, and else it gives the addresses of
the APN's settings without padding, and their port. -/
theorem settings?_agrees_with_selection (apn : NetworkApn) (requested id : String) :
    let answer := (resolve [apn.toRecord] requested id).result
    (apn.settings? = none ↔ answer = .error .noValidApn) ∧
      ∀ n, apn.settings? = some n →
        let url := trimZeros n.mmscUrl
        (¬Uri.isReference url → answer = .error (.invalidMmscUrl url)) ∧
        (Uri.isReference url → ∃ s, answer = .ok s ∧ s.mmscUrl = url ∧
          s.proxyAddress = n.proxyAddress.map trimZeros ∧ s.proxyPort = n.proxyPort) := by
  intro answer
  constructor
  · rw [settings?_eq_none_iff]
    refine ⟨fun h ↦ Selection.result_resolve_ofAddresses_of_eq_none h requested id, fun h ↦ ?_⟩
    rcases hmmsc : present? apn.mmsc with - | mmsc
    · rfl
    · -- a record with an MMSC decides, one way or the other
      have hanswer : answer = _ :=
        Selection.result_resolve_ofAddresses_of_eq_some hmmsc requested id
      exact absurd (hanswer.symm.trans h) Selection.decideBy_fst_ne_noValidApn
  · intro n hn url
    have hproxy := ofRecord_toRecord hn
    have hanswer : answer = _ :=
      Selection.result_resolve_ofAddresses_of_eq_some (present?_mmsc hn) requested id
    constructor
    · intro href
      exact hanswer.trans (Selection.decideBy_fst_of_not_isReference href)
    · intro href
      refine ⟨_, hanswer.trans (Selection.decideBy_fst_of_isReference href), rfl, ?_, ?_⟩
      · rw [Selection.proxyAddress_settings]
        exact congrArg ProxyChoice.address hproxy
      · rw [Selection.proxyPort_settings]
        exact congrArg ProxyChoice.port hproxy

/-- The padding of a proxy's address stays where nothing is selected. -/
theorem settings?_agrees_padded_proxy :
    let apn : NetworkApn :=
      { mmsc := some " http://m/", mmsProxyAddress := some "010.0.0.1", mmsProxyPort := some 8080 }
    let n : Settings := ⟨"http://m/", some "010.0.0.1", 8080, apn.display⟩
    apn.settings? = some n ∧
      ∃ s, (resolve [apn.toRecord] "mms" "req").result = .ok s ∧ s.mmscUrl = n.mmscUrl ∧
        s.proxyAddress = some "10.0.0.1" ∧ s.proxyPort = n.proxyPort := by
  intro apn n
  have hn : apn.settings? = some n := by decide +kernel
  have hurl : trimZeros n.mmscUrl = "http://m/" := by decide +kernel
  have href : Uri.isReference (trimZeros n.mmscUrl) := by decide +kernel
  obtain ⟨-, hagree⟩ := settings?_agrees_with_selection apn "mms" "req"
  obtain ⟨s, hs, hmmscUrl, hproxy, hport⟩ := (hagree n hn).2 href
  exact ⟨hn, s, hs, hmmscUrl.trans hurl, hproxy.trans (by decide +kernel), hport⟩

end AccessPoint.NetworkApn

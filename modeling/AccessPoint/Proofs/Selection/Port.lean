import AccessPoint.Proofs.Selection.Trace

/-!
# The port of the winning record

A record wins a selection if it decides and its MMSC is a URI reference (`Wins`). The settings are
then its own, and what is logged as a warning is the fault of its port and nothing else
(`resolve_of_wins`): the records in front are passed over without warnings (`warnings_passings`),
and the success behind is none.

Which port the settings carry, and which fault is reported, is read off the text of the port alone
(`port_read_or_warned`). There are three cases, and they exclude each other:

* there is no proxy, or nothing in the port (`ofRecord_of_proxy_eq`, `readPort_of_eq_empty`): the
  port is 80, and nothing is said of it;
* beside a proxy, a numeral up to 65535 (`readPort_of_denotes`) is taken for its number;
* of any other text the leading digits tell whether they are too large or end at a character that is
  no digit (`readPort_of_not_denotes`); the port is 80, and a warning says which.

No text of a port keeps a record from winning. That is why the existence of settings stands in front
of the three cases, and not within them.
-/

namespace AccessPoint

open Log (Entry Event)
open Text.Numeral (Denotes leadingValue)

namespace Selection

variable {r : Record} {rs : List Record} {requested id : String} {index n : Nat}

/-- The record wins: it is the first that serves the type and has an MMSC, and this MMSC is a URI
reference once its padding is dropped. -/
structure Wins (requested : String) (rs : List Record) (r : Record) : Prop where
  find?_eq : rs.find? (decides requested) = some r
  isReference : Uri.isReference (trimZeros (r.trimmed .mmsc))

/-- The warnings in a log. -/
def warnings (entries : List Entry) : List Entry := entries.filter fun e ↦ e.level == .warn

/-! ### The warnings of a run -/

/-- No warning is given for a record that is passed over. -/
theorem warnings_passings : warnings (passings requested id index rs) = [] := by
  rw [warnings, List.filter_eq_nil_iff]
  intro e he hwarn
  have hlevel := level_of_mem_passings he
  rw [beq_iff_eq.1 hwarn] at hlevel
  exact hlevel.elim (fun h ↦ nomatch h) fun h ↦ nomatch h

/-- A winning record gives its settings. Its fault is logged as a warning, and no other warning
is. -/
theorem resolve_of_wins (h : Wins requested rs r) (id : String) :
    ∃ index, rs[index]? = some r ∧
      (resolve rs requested id).result = .ok (settings r (trimZeros (r.trimmed .mmsc))) ∧
      warnings (resolve rs requested id).entries =
        (ProxyChoice.ofRecord r).fault.toList.map fun (port, fault) ↦
          warning id index port fault := by
  obtain ⟨before, after, rfl, hfirst⟩ := exists_isFirst h.find?_eq
  obtain ⟨hresult, hentries⟩ := select_append hfirst.none_before 0 (r :: after) id
  rw [select_cons_of_decides hfirst.decides_self, Nat.zero_add, decideBy, if_pos h.isReference]
    at hresult hentries
  refine ⟨before.length, by simp, hresult, ?_⟩
  have hlog : (resolve (before ++ r :: after) requested id).entries = _ := hentries
  -- the entries in front are no warnings, and neither is the success behind
  rw [hlog, warnings, List.filter_append, ← warnings, warnings_passings, List.nil_append]
  rcases (ProxyChoice.ofRecord r).fault with - | ⟨port, fault⟩
  · rfl
  · rfl

/-! ### What is read as a port -/

/-- Without a proxy the port is not looked at. -/
theorem ofRecord_of_proxy_eq (h : r.trimmed .mmsProxy = "") :
    ProxyChoice.ofRecord r = ⟨none, 80, none⟩ := by
  rw [ProxyChoice.ofRecord, present?_value, if_pos h]
  rfl

/-- Beside a proxy the port is what its text is read as. -/
theorem ofRecord_of_proxy_ne (h : r.trimmed .mmsProxy ≠ "") :
    ((ProxyChoice.ofRecord r).port, (ProxyChoice.ofRecord r).fault) =
      ProxyChoice.readPort (r.value .mmsPort) := by
  rw [ProxyChoice.ofRecord, present?_value, if_neg h]

theorem readPort_of_eq_empty {c : Column} (h : r.trimmed c = "") :
    ProxyChoice.readPort (r.value c) = (80, none) := by
  rw [ProxyChoice.readPort, present?_value, if_pos h]
  rfl

/-- A numeral within the limit is read without a warning. -/
theorem readPort_of_denotes {c : Column} (h : Denotes (r.trimmed c) n) (hn : n ≤ 65535) :
    ProxyChoice.readPort (r.value c) = (n.toUInt16, none) := by
  have hne : r.trimmed c ≠ "" := fun hempty ↦ Text.Numeral.not_denotes_empty n (hempty ▸ h)
  have hread : Text.Numeral.read maxPort (r.trimmed c) = .ok n :=
    Text.Numeral.read_eq_ok_iff.2 ⟨h, hn⟩
  rw [ProxyChoice.readPort, present?_value, if_neg hne]
  simp only [hread]

/-- A text that denotes no port number is reported with the fault that its leading digits tell. -/
theorem readPort_of_not_denotes {c : Column} (hne : r.trimmed c ≠ "")
    (h : ∀ n ≤ 65535, ¬Denotes (r.trimmed c) n) :
    ProxyChoice.readPort (r.value c) =
      (80, some (r.trimmed c,
        if 65535 < leadingValue (r.trimmed c) then .tooLarge else .notDigit)) := by
  rcases readPort_cases (r := r) c with ⟨hempty, -⟩ | ⟨n, hn, hle, -⟩ | ⟨fault, -, hread, hport⟩
  · exact absurd hempty hne
  · exact absurd hn (h n hle)
  · rw [hport, Text.Numeral.fault_of_read_eq_error hread, maxPort]

/-- The text of a warning ends in the wording of its fault. -/
theorem warning_eq (id : String) (index : Nat) (port : String) (fault : Text.Numeral.Fault) :
    warning id index port fault =
      ⟨.warn, "Invalid port " ++ port ++ ", use 80: " ++ fault.message,
        [("index", .number index)], some id⟩ := by
  have hdefault : Nat.repr defaultProxyPort.toNat = "80" := by decide
  have htext : ", use 80: " = ", use " ++ "80" ++ ": " := by decide
  rw [warning, hdefault, htext]
  simp only [String.append_assoc]

/-- **A port is read from its text, or gives way to 80 with a warning.** The record that wins a
selection gives settings, whatever its port. Without a proxy, and with a port that has nothing in
it, the settings carry 80 and nothing is warned of. Beside a proxy a numeral up to 65535, with a
plus sign or without and with any number of leading zeros, is the port of the settings, and nothing
is warned of. Any other text gives way to 80, with one warning; it says that the number is too large
if the digits in front of the first other character, behind a plus sign, already exceed 65535, and
that a digit is invalid if they do not. -/
theorem port_read_or_warned (h : Wins requested rs r) (id : String) :
    ∃ (s : Settings) (index : Nat),
      (resolve rs requested id).result = .ok s ∧ rs[index]? = some r ∧
      let port := r.trimmed .mmsPort
      let warned := warnings (resolve rs requested id).entries
      (r.trimmed .mmsProxy = "" ∨ port = "" → s.proxyPort = 80 ∧ warned = []) ∧
      (r.trimmed .mmsProxy ≠ "" → ∀ n ≤ 65535, Denotes port n →
        s.proxyPort.toNat = n ∧ warned = []) ∧
      (r.trimmed .mmsProxy ≠ "" → port ≠ "" → (∀ n ≤ 65535, ¬Denotes port n) →
        s.proxyPort = 80 ∧
          warned = [⟨.warn,
            "Invalid port " ++ port ++ ", use 80: " ++
              if 65535 < leadingValue port then "number too large to fit in target type"
              else "invalid digit found in string",
            [("index", .number index)], some id⟩]) := by
  obtain ⟨index, hindex, hresult, hwarned⟩ := resolve_of_wins h id
  refine ⟨_, index, hresult, hindex, ?_⟩
  intro port warned
  rw [proxyPort_settings]
  have hchoice : r.trimmed .mmsProxy ≠ "" → ∀ {p fault},
      ProxyChoice.readPort (r.value .mmsPort) = (p, fault) →
        (ProxyChoice.ofRecord r).port = p ∧
          warned = fault.toList.map fun (port, fault) ↦ warning id index port fault := by
    intro hproxy p fault hread
    obtain ⟨hport, hfault⟩ := Prod.mk.inj ((ofRecord_of_proxy_ne hproxy).trans hread)
    exact ⟨hport, hfault ▸ hwarned⟩
  refine ⟨fun hempty ↦ ?_, fun hproxy n hn hd ↦ ?_, fun hproxy hne hnot ↦ ?_⟩
  · by_cases hproxy : r.trimmed .mmsProxy = ""
    · rw [ofRecord_of_proxy_eq hproxy] at hwarned ⊢
      exact ⟨rfl, hwarned⟩
    · exact hchoice hproxy (readPort_of_eq_empty (hempty.resolve_left hproxy))
  · obtain ⟨hport, hnone⟩ := hchoice hproxy (readPort_of_denotes hd hn)
    have hsize : n < UInt16.size := Nat.lt_of_le_of_lt hn (by decide)
    exact ⟨hport ▸ UInt16.toNat_ofNat_of_lt' hsize, hnone⟩
  · have hmessage : Text.Numeral.Fault.message
        (if 65535 < leadingValue port then .tooLarge else .notDigit) =
          if 65535 < leadingValue port then "number too large to fit in target type"
          else "invalid digit found in string" := apply_ite ..
    rw [← hmessage, ← warning_eq]
    exact hchoice hproxy (readPort_of_not_denotes hne hnot)

/-- The greatest port with a sign and zeros in front, and a text that passes it before its letter,
in a record behind one of another type. -/
theorem port_read_or_warned_at_limit :
    let m := (Record.empty.put .mmsc "http://m/").put .mmsProxy "p"
    let greatest := m.put .mmsPort " +00065535"
    let beyond := m.put .mmsPort "65536x"
    let supl := m.put .type "supl"
    (Wins "mms" [greatest] greatest ∧ greatest.trimmed .mmsProxy ≠ "" ∧
      Denotes (greatest.trimmed .mmsPort) 65535 ∧
      ∃ s, (resolve [greatest] "mms" "req").result = .ok s ∧ s.proxyPort.toNat = 65535 ∧
        warnings (resolve [greatest] "mms" "req").entries = []) ∧
    (Wins "mms" [supl, beyond] beyond ∧ beyond.trimmed .mmsProxy ≠ "" ∧
      beyond.trimmed .mmsPort ≠ "" ∧ (∀ n ≤ 65535, ¬Denotes (beyond.trimmed .mmsPort) n) ∧
      ∃ s, ∃ index : Nat, (resolve [supl, beyond] "mms" "req").result = .ok s ∧ s.proxyPort = 80 ∧
        warnings (resolve [supl, beyond] "mms" "req").entries =
          [⟨.warn, "Invalid port 65536x, use 80: number too large to fit in target type",
            [("index", .number index)], some "req"⟩]) := by
  intro m greatest beyond supl
  have hgreatest : Wins "mms" [greatest] greatest := ⟨by decide, by decide +kernel⟩
  have hbeyond : Wins "mms" [supl, beyond] beyond := ⟨by decide, by decide +kernel⟩
  have hport : greatest.trimmed .mmsPort = "+00065535" := by decide
  have htext : beyond.trimmed .mmsPort = "65536x" := by decide
  have hok : Text.Numeral.read 65535 "+00065535" = .ok 65535 := rfl
  have hlarge : Text.Numeral.read 65535 "65536x" = .error .tooLarge := rfl
  have hdenotes : Denotes (greatest.trimmed .mmsPort) 65535 :=
    hport ▸ (Text.Numeral.read_eq_ok_iff.1 hok).1
  have hnot : ∀ n ≤ 65535, ¬Denotes (beyond.trimmed .mmsPort) n :=
    htext ▸ Text.Numeral.not_denotes_of_read_eq_error hlarge
  have hproxy : greatest.trimmed .mmsProxy ≠ "" := by decide
  have hproxy' : beyond.trimmed .mmsProxy ≠ "" := by decide
  have hne : beyond.trimmed .mmsPort ≠ "" := by decide
  obtain ⟨s, -, hs, -, -, hread, -⟩ := port_read_or_warned hgreatest "req"
  obtain ⟨t, index, ht, -, -, -, hwarned⟩ := port_read_or_warned hbeyond "req"
  obtain ⟨hdefault, hwarning⟩ := hwarned hproxy' hne hnot
  refine ⟨⟨hgreatest, hproxy, hdenotes, s, hs, hread hproxy 65535 (Nat.le_refl _) hdenotes⟩,
    hbeyond, hproxy', hne, hnot, t, index, ht, hdefault, hwarning.trans ?_⟩
  rw [htext, if_pos (Text.Numeral.read_eq_tooLarge_iff.1 hlarge)]
  rfl

end Selection

end AccessPoint

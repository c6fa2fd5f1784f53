import AccessPoint.Proofs.Selection
import AccessPoint.Proofs.Text.Blank

/-!
# Records of addresses only

A record may name an MMSC, a proxy and its port, and nothing else (`Record.ofAddresses`). Such a
record serves every type, so as the only candidate it decides a selection as soon as it has an MMSC
(`result_resolve_ofAddresses_of_eq_some`), and without one no APN is valid
(`result_resolve_ofAddresses_of_eq_none`).

Two things become records of this kind when they are compared with a selection: an APN of the
network layer, which is turned into settings without one, and settings that were selected before and
are put to a selection again. Both hold the port as a number, whereas a record holds texts. A port
is read back from its decimal text, whatever its number (`readPort_repr`), and it counts only beside
a proxy (`ofRecord_ofAddresses`).
-/

namespace AccessPoint

open Text (present?)

/-- The record that names an MMSC, a proxy and its port in decimal, and nothing else. -/
def Record.ofAddresses (mmsc proxy : Option String) (port : Option UInt16) : Record :=
  ⟨fun
    | .mmsc => mmsc
    | .mmsProxy => proxy
    | .mmsPort => port.map fun p ↦ Nat.repr p.toNat
    | _ => none⟩

namespace ProxyChoice

variable {r : Record}

/-- The address of a proxy is its column, trimmed and without padding. -/
theorem address_ofRecord (r : Record) :
    (ofRecord r).address = (present? (r.value .mmsProxy)).map trimZeros := by
  rw [ofRecord]
  rcases present? (r.value .mmsProxy) with - | address <;> rfl

/-- Without a proxy there is no port to choose. -/
theorem port_ofRecord_of_address_eq_none (h : (ofRecord r).address = none) :
    (ofRecord r).port = defaultProxyPort := by
  rw [address_ofRecord, Option.map_eq_none_iff] at h
  rw [ofRecord, h]

/-- A port is read back from its decimal text; where there is none, the default is read. -/
theorem readPort_repr (port : Option UInt16) :
    readPort (port.map fun p ↦ Nat.repr p.toNat) = (port.getD defaultProxyPort, none) := by
  rcases port with - | p
  · rfl
  · have hle : p.toNat ≤ maxPort := Nat.le_of_lt_succ p.toNat_lt
    rw [Option.map_some, readPort, Text.present?_repr]
    simp only [Text.Numeral.read_repr hle, Option.getD_some]
    show (UInt16.ofNat p.toNat, none) = (p, none)
    rw [UInt16.ofNat_toNat]

/-- The port counts only beside a proxy. -/
theorem ofRecord_ofAddresses (mmsc proxy : Option String) (port : Option UInt16) :
    ofRecord (.ofAddresses mmsc proxy port) =
      match present? proxy with
      | none => ⟨none, defaultProxyPort, none⟩
      | some address => ⟨some (trimZeros address), port.getD defaultProxyPort, none⟩ := by
  have hport : readPort ((Record.ofAddresses mmsc proxy port).value .mmsPort) =
      (port.getD defaultProxyPort, none) := readPort_repr port
  rw [ofRecord, hport]
  rfl

end ProxyChoice

namespace Selection

variable {mmsc proxy : Option String} {port : Option UInt16} {m : String}

/-- Without a list of types a record serves whatever is requested. -/
theorem serves_ofAddresses (requested : String) :
    Types.serves ((Record.ofAddresses mmsc proxy port).value .type) requested :=
  rfl

/-- Without an MMSC the record decides nothing. -/
theorem result_resolve_ofAddresses_of_eq_none (h : present? mmsc = none) (requested id : String) :
    (resolve [.ofAddresses mmsc proxy port] requested id).result = .error .noValidApn := by
  have hmmsc : present? ((Record.ofAddresses mmsc proxy port).value .mmsc) = none := h
  show (select requested 0 [Record.ofAddresses mmsc proxy port]).1 = _
  rw [select, if_pos (serves_ofAddresses requested), hmmsc]
  rfl

/-- With an MMSC the record decides, whatever type is requested. -/
theorem result_resolve_ofAddresses_of_eq_some (h : present? mmsc = some m)
    (requested id : String) :
    (resolve [.ofAddresses mmsc proxy port] requested id).result =
      (decideBy 0 (.ofAddresses mmsc proxy port) m).1 := by
  have hmmsc : present? ((Record.ofAddresses mmsc proxy port).value .mmsc) = some m := h
  show (select requested 0 [Record.ofAddresses mmsc proxy port]).1 = _
  rw [select, if_pos (serves_ofAddresses requested), hmmsc]

end Selection

end AccessPoint

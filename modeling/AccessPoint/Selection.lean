import AccessPoint.Address.Zeros.Basic
import AccessPoint.Log.Entry
import AccessPoint.Record.Description
import AccessPoint.Record.Types
import AccessPoint.Uri.Reference

/-!
# Selection among candidates

Candidates are examined in order. The *deciding* row is the first that serves the requested type and
has an MMSC. Its MMSC, without padding, must be a URI reference: if it is none the selection fails,
and no later row is considered. A port that is no port number gives way to the default.
-/

namespace AccessPoint

open Log (Event Traced)

/-- The proxy of a row: its address, if it has one, its port, and the port text that was no port
number, if it was none. -/
structure ProxyChoice where
  address : Option String
  port : UInt16
  fault : Option (String × Text.Numeral.Fault)
  deriving DecidableEq, Repr

namespace ProxyChoice

/-- The port of a proxy, and the fault of a port text that is no port number. -/
def readPort (port : Option String) : UInt16 × Option (String × Text.Numeral.Fault) :=
  match Text.present? port with
  | none => (defaultProxyPort, none)
  | some port =>
    match Text.Numeral.read maxPort port with
    | .ok n => (n.toUInt16, none)
    | .error fault => (defaultProxyPort, some (port, fault))

/-- The proxy that a row names. Without an address its port is not looked at. -/
def ofRecord (r : Record) : ProxyChoice :=
  match Text.present? (r.value .mmsProxy) with
  | none => ⟨none, defaultProxyPort, none⟩
  | some address =>
    let (port, fault) := readPort (r.value .mmsPort)
    ⟨some (trimZeros address), port, fault⟩

end ProxyChoice

namespace Selection

/-- The settings that a row gives for an MMSC. -/
def settings (r : Record) (mmscUrl : String) : Settings :=
  let proxy := ProxyChoice.ofRecord r
  ⟨mmscUrl, proxy.address, proxy.port, r.description⟩

/-- The outcome of a selection that row `index` with the given MMSC decides. -/
def decideBy (index : Nat) (r : Record) (mmsc : String) :
    Except Error Settings × List Event :=
  let url := trimZeros mmsc
  if Uri.isReference url then
    let faults := (ProxyChoice.ofRecord r).fault.toList.map fun (port, fault) ↦
      Event.invalidPort index port fault
    (.ok (settings r url), faults ++ [.selected index (settings r url)])
  else (.error (.invalidMmscUrl url), [.invalidMmsc index url])

/-- The outcome of a selection among rows that are counted from `index` on. -/
def select (requested : String) : Nat → List Record → Except Error Settings × List Event
  | _, [] => (.error .noValidApn, [])
  | index, r :: rs =>
    if Types.serves (r.value .type) requested then
      match Text.present? (r.value .mmsc) with
      | some mmsc => decideBy index r mmsc
      | none =>
        let (result, events) := select requested (index + 1) rs
        (result, .noMmsc index :: events)
    else
      let (result, events) := select requested (index + 1) rs
      (result, .typeMismatch index (r.value .type) requested :: events)

end Selection

/-- The settings that the candidates give for the requested type. All that happens is logged in the
span of the request. -/
def resolve (candidates : List Record) (requested requestId : String) :
    Traced (Except Error Settings) :=
  let (result, events) := Selection.select requested 0 candidates
  ⟨result, events.map (Event.entry (some requestId))⟩

end AccessPoint

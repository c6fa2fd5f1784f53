import AccessPoint.Settings
import AccessPoint.Text.Blank

/-!
# APNs from the network layer

Once a data connection is up, the network layer knows which APN it brought up for messages and hands
it over. Nothing is selected then: the MMSC and the proxy are only trimmed of blanks, and an APN
without an MMSC gives no settings.
-/

namespace AccessPoint

/-- An APN as the network layer describes it. -/
structure NetworkApn where
  entryName : String := ""
  apnName : String := ""
  apnTypes : List String := []
  mmsc : Option String := none
  mmsProxyAddress : Option String := none
  mmsProxyPort : Option UInt16 := none
  deriving DecidableEq, Repr, Inhabited

namespace NetworkApn

/-- The APN with a proxy, and its port if that is known. -/
def withProxy (apn : NetworkApn) (address : String) (port : Option UInt16) : NetworkApn :=
  { apn with mmsProxyAddress := some address, mmsProxyPort := port }

/-- The APN on one line; an unknown port is shown as -1. -/
def display (apn : NetworkApn) : String :=
  "[ApnSetting] " ++ ", ".intercalate
    [apn.entryName, apn.apnName, " | ".intercalate apn.apnTypes, apn.mmsc.getD "",
      apn.mmsProxyAddress.getD "", (apn.mmsProxyPort.map fun p ↦ Nat.repr p.toNat).getD "-1"]

/-- The settings that the APN gives, if it has an MMSC. -/
def settings? (apn : NetworkApn) : Option Settings :=
  (Text.present? apn.mmsc).map fun mmsc ↦
    match Text.present? apn.mmsProxyAddress with
    | none => ⟨mmsc, none, defaultProxyPort, apn.display⟩
    | some proxy => ⟨mmsc, some proxy, apn.mmsProxyPort.getD defaultProxyPort, apn.display⟩

end NetworkApn

end AccessPoint

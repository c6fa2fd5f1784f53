import AccessPoint.Json.Printer
import AccessPoint.Json.Reader
import AccessPoint.Network.Basic

/-!
# APNs of the network layer as JSON

An APN of the network layer is written as an object of its six fields. It is read from an object in
which fields may be missing, or from an array of values in the same order. The texts and the list of
types may be missing but not null.
-/

namespace AccessPoint.NetworkApn

/-- The names of the fields, in order. -/
def fieldNames : List String :=
  ["entry_name", "apn_name", "apn_types", "mmsc", "mms_proxy_address", "mms_proxy_port"]

/-- The values of the fields, in order. -/
def fieldValues (apn : NetworkApn) : List Json :=
  [.ofText apn.entryName, .ofText apn.apnName, .array (apn.apnTypes.map .ofText),
    .ofOption .ofText apn.mmsc, .ofOption .ofText apn.mmsProxyAddress,
    .ofOption (fun port ↦ .ofNat port.toNat) apn.mmsProxyPort]

/-- The JSON tree of an APN. -/
def toJson (apn : NetworkApn) : Json := .ofMembers (fieldNames.zip apn.fieldValues)

/-- The APN of a JSON tree. -/
def ofJson? (json : Json) : Option NetworkApn := do
  let [entryName, apnName, apnTypes, mmsc, address, port] ← json.fields? fieldNames | none
  return {
    entryName := ← (entryName.getD (.ofText "")).text?
    apnName := ← (apnName.getD (.ofText "")).text?
    apnTypes := ← (apnTypes.getD (.array [])).items? Json.text?
    mmsc := ← (mmsc.getD .null).nullOr? Json.text?
    mmsProxyAddress := ← (address.getD .null).nullOr? Json.text?
    mmsProxyPort := (← (port.getD .null).nullOr? (Json.nat? maxPort)).map Nat.toUInt16 }

/-- The APN of a JSON text. -/
def parseJson? (s : String) : Option NetworkApn := (Json.parse s).bind ofJson?

end AccessPoint.NetworkApn

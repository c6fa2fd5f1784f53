import AccessPoint.Json.Printer
import AccessPoint.Json.Reader
import AccessPoint.Record.Basic

/-!
# Records as JSON

A record is written as an object with a member for every column, null where the column is not set.
It is read from an object in which columns may be missing, or from an array of values in the order
of the columns.
-/

namespace AccessPoint.Record

/-- The JSON tree of a record. -/
def toJson (r : Record) : Json :=
  .ofMembers (Column.members.map fun (name, c) ↦ (name, Json.ofOption .ofText (r.value c)))

/-- The record of a JSON tree. -/
def ofJson? (json : Json) : Option Record := do
  let fields ← json.fields? (Column.members.map Prod.fst)
  let values ← fields.mapM fun field ↦ (field.getD .null).nullOr? Json.text?
  return ofValues values

/-- The record of a JSON text. -/
def parseJson? (s : String) : Option Record := (Json.parse s).bind ofJson?

end AccessPoint.Record

import AccessPoint.Record.Basic

/-!
# The description of a record

The one-line text by which settings remember the row they came from.
-/

namespace AccessPoint.Record

/-- Every non-empty column as `name=value`, in order, between the brackets of `APN […]`. -/
def description (r : Record) : String :=
  let fields := r.toColumns.filter fun (_, v) ↦ v ≠ ""
  "APN [" ++ " ".intercalate (fields.map fun (name, v) ↦ name ++ "=" ++ v) ++ "]"

end AccessPoint.Record

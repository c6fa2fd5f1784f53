import AccessPoint.Text.Blank

/-!
# Lists of APN types

A row names the APN types it serves in a list parted by commas, each entry trimmed of blanks. The
entry `*` serves every request, and so does a row whose list is absent or empty.
-/

namespace AccessPoint.Types

/-- The type requested for multimedia messages. -/
def mms : String := "mms"

/-- The entry that serves every request. -/
def wildcard : String := "*"

/-- The entries of a list of types. -/
def entries (types : String) : List String :=
  (types.toList.splitOn ',').map fun entry ↦ String.ofList (Text.strip Text.isBlank entry)

/-- Whether a row with these types serves the requested one. -/
def serves (types : Option String) (requested : String) : Bool :=
  match types with
  | none => true
  | some types =>
    types.isEmpty || (entries types).any fun entry ↦ entry == requested || entry == wildcard

end AccessPoint.Types

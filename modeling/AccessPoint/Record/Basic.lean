import AccessPoint.Record.Column

/-!
# Records

A record is one candidate row: an optional text for each column. A value that is set may be empty.
Columns are set and read by name; a name that is no column changes nothing and reads as absent. What
is set goes to the column of `Column.ofName?`, and what is read comes from the list of
`Record.columns`, which has names of its own.
-/

namespace AccessPoint

/-- A row of APN data: an optional value for each column. -/
@[ext]
structure Record where
  value : Column → Option String

namespace Record

/-- The names of the columns, in the order in which they are reported. -/
def columnNames : List String :=
  ["type", "mmsc", "mmsproxy", "mmsport", "name", "apn", "bearer_bitmask", "protocol",
    "roaming_protocol", "authtype", "mvno_type", "mvno_match_data", "proxy", "port", "server",
    "user", "password"]

/-- The record with no column set. -/
def empty : Record := ⟨fun _ ↦ none⟩

instance : Inhabited Record := ⟨empty⟩

/-- Records are equal when they agree on every column. -/
instance : DecidableEq Record := fun r s ↦
  decidable_of_iff (∀ c ∈ Column.all, r.value c = s.value c)
    ⟨fun h ↦ Record.ext (funext fun c ↦ h c c.mem_all), fun h _ _ ↦ h ▸ rfl⟩

/-- The record with one more column set. -/
def put (c : Column) (v : String) (r : Record) : Record :=
  ⟨fun d ↦ if d = c then some v else r.value d⟩

/-- The record with a column set by name, if the name is that of a column. -/
def set? (name : String) (v : String) (r : Record) : Option Record :=
  (Column.ofName? name).map fun c ↦ r.put c v

/-- The record with a column set by name; a name that is no column changes nothing. -/
def set (name : String) (v : String) (r : Record) : Record := (r.set? name v).getD r

/-- The record with the given columns set, in order; of two values for a column the later stays. -/
def ofColumns (pairs : List (String × String)) : Record :=
  pairs.foldl (fun r (name, v) ↦ r.set name v) empty

/-- Every column by name with its value, in the order in which columns are reported. -/
def columns (r : Record) : List (String × Option String) :=
  [("type", r.value .type), ("mmsc", r.value .mmsc), ("mmsproxy", r.value .mmsProxy),
    ("mmsport", r.value .mmsPort), ("name", r.value .name), ("apn", r.value .apn),
    ("bearer_bitmask", r.value .bearerBitmask), ("protocol", r.value .protocol),
    ("roaming_protocol", r.value .roamingProtocol), ("authtype", r.value .authType),
    ("mvno_type", r.value .mvnoType), ("mvno_match_data", r.value .mvnoMatchData),
    ("proxy", r.value .proxy), ("port", r.value .port), ("server", r.value .server),
    ("user", r.value .user), ("password", r.value .password)]

/-- The value of a column by name. -/
def get (name : String) (r : Record) : Option String :=
  (r.columns.find? fun p ↦ p.1 == name).bind Prod.snd

/-- The columns that are set, by name. -/
def toColumns (r : Record) : List (String × String) :=
  r.columns.filterMap fun (name, v) ↦ v.map fun v ↦ (name, v)

/-- The record with the given values in the order in which documents hold the columns. -/
def ofValues (values : List (Option String)) : Record :=
  ⟨fun c ↦ ((Column.all.zip values).lookup c).join⟩

@[simp] theorem value_empty (c : Column) : empty.value c = none := rfl

@[simp] theorem value_put (c d : Column) (v : String) (r : Record) :
    (r.put c v).value d = if d = c then some v else r.value d := rfl

end Record

end AccessPoint

/-!
# Columns

The columns of an APN row. Two tables give them names. Documents name the columns by the members of
an object (`Column.members`), and whoever sets a value names the column in a word of its own
(`Column.ofName?`). Neither table is made from the other: that they agree is a theorem.
-/

namespace AccessPoint

/-- A column of an APN row. -/
inductive Column
  /-- The APN types that the row serves, parted by commas. -/
  | type
  /-- The URL of the multimedia messaging centre. -/
  | mmsc
  /-- The address of the proxy in front of it. -/
  | mmsProxy
  /-- The port of that proxy. -/
  | mmsPort
  /-- The name shown to people. -/
  | name
  /-- The access point name. -/
  | apn
  | bearerBitmask
  | protocol
  | roamingProtocol
  | authType
  | mvnoType
  | mvnoMatchData
  | proxy
  | port
  | server
  | user
  | password
  deriving DecidableEq, Repr

namespace Column

/-- The members by which a document holds a row, in order: the name of each, and its column. -/
def members : List (String × Column) :=
  [("type", type), ("mmsc", mmsc), ("mmsproxy", mmsProxy), ("mmsport", mmsPort), ("name", name),
    ("apn", apn), ("bearer_bitmask", bearerBitmask), ("protocol", protocol),
    ("roaming_protocol", roamingProtocol), ("authtype", authType), ("mvno_type", mvnoType),
    ("mvno_match_data", mvnoMatchData), ("proxy", proxy), ("port", port), ("server", server),
    ("user", user), ("password", password)]

/-- All columns in the order in which documents hold them. -/
def all : List Column := members.map Prod.snd

/-- The name of a column in documents. -/
def label (c : Column) : String := ((members.find? fun m ↦ m.2 = c).map Prod.fst).getD ""

/-- The column that is set under a name, if there is one. -/
def ofName? : String → Option Column
  | "type" => some type
  | "mmsc" => some mmsc
  | "mmsproxy" => some mmsProxy
  | "mmsport" => some mmsPort
  | "name" => some name
  | "apn" => some apn
  | "bearer_bitmask" => some bearerBitmask
  | "protocol" => some protocol
  | "roaming_protocol" => some roamingProtocol
  | "authtype" => some authType
  | "mvno_type" => some mvnoType
  | "mvno_match_data" => some mvnoMatchData
  | "proxy" => some proxy
  | "port" => some port
  | "server" => some server
  | "user" => some user
  | "password" => some password
  | _ => none

theorem mem_all (c : Column) : c ∈ all := by cases c <;> decide

end Column

end AccessPoint

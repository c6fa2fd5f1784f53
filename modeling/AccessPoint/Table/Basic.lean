import AccessPoint.Error
import AccessPoint.Record.Basic
import AccessPoint.Text.Blank

/-!
# Tables and queries

A table holds rows of APN data for several subscriptions in the order of insertion. A query asks for
the rows of one subscription, optionally of one access point name only. A source is whatever answers
queries; a table is one.
-/

namespace AccessPoint

/-- A record and the subscription it belongs to. -/
structure Row where
  subId : Int32
  record : Record
  deriving DecidableEq

/-- Rows in the order of insertion. -/
@[ext]
structure Table where
  rows : List Row
  deriving DecidableEq

/-- A request for rows. -/
structure Query where
  subId : Int32
  /-- The access point name that rows must have; absent when any will do. -/
  apnName : Option String
  deriving DecidableEq, Repr

namespace Query

/-- The query for a name as it was given: trimmed of blanks, and dropped when nothing is left. -/
def ofName (subId : Int32) (apnName : Option String) : Query := ⟨subId, Text.present? apnName⟩

/-- Whether the name of a record is the one asked for. -/
def accepts (q : Query) (r : Record) : Bool :=
  match q.apnName with
  | some name => r.value .apn == some name
  | none => true

end Query

namespace Table

/-- The table without rows. -/
def empty : Table := ⟨[]⟩

instance : Inhabited Table := ⟨empty⟩

/-- The table with one more row at its end. -/
def insert (t : Table) (subId : Int32) (r : Record) : Table := ⟨t.rows ++ [⟨subId, r⟩]⟩

/-- The number of rows. -/
def size (t : Table) : Nat := t.rows.length

/-- Whether there are no rows. -/
def isEmpty (t : Table) : Bool := t.rows.isEmpty

/-- The records that a query selects, in the order of insertion. -/
def query (t : Table) (q : Query) : List Record :=
  (t.rows.filter fun row ↦ row.subId == q.subId && q.accepts row.record).map Row.record

@[simp] theorem rows_empty : empty.rows = [] := rfl

@[simp] theorem rows_insert (t : Table) (subId : Int32) (r : Record) :
    (t.insert subId r).rows = t.rows ++ [⟨subId, r⟩] := rfl

end Table

/-- Whatever answers queries, or fails to. -/
abbrev Source := Query → Except Error (List Record)

namespace Source

/-- The source that answers from a table. -/
def ofTable (t : Table) : Source := fun q ↦ .ok (t.query q)

/-- The source that fails every query. -/
def failing (text : String) : Source := fun _ ↦ .error (.source text)

end Source

end AccessPoint

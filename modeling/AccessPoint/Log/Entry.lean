import AccessPoint.Log.Level
import AccessPoint.Settings

/-!
# Log entries

An `Event` is something a lookup or a load reports; an `Entry` is the form in which it is logged: a
level, a message, named fields, and the request in whose span it happened, if it did in one.
-/

namespace AccessPoint.Log

/-- The value of a field. -/
inductive Field
  | number (n : Int)
  | text (s : String)
  deriving DecidableEq, Repr

/-- A log entry. The span, where there is one, carries the identifier of a request. -/
structure Entry where
  level : Level
  message : String
  fields : List (String × Field)
  span : Option String
  deriving DecidableEq, Repr

/-- A result and the entries logged on the way to it, in order. -/
structure Traced (α : Type) where
  result : α
  entries : List Entry

/-- What is reported. Rows are named by their index among the candidates. -/
inductive Event
  /-- The row does not serve the requested type. -/
  | typeMismatch (index : Nat) (types : Option String) (requested : String)
  /-- The row serves the requested type and has no MMSC. -/
  | noMmsc (index : Nat)
  /-- The MMSC of the deciding row is no URI reference. -/
  | invalidMmsc (index : Nat) (url : String)
  /-- The port of the deciding row is no port number. -/
  | invalidPort (index : Nat) (port : String) (fault : Text.Numeral.Fault)
  /-- The deciding row gave settings. -/
  | selected (index : Nat) (settings : Settings)
  /-- A lookup begins, with this access point name. -/
  | loading (requestId : String) (subId : Int) (apnName : Option String)
  /-- The source gave this many candidates. -/
  | fetched (requestId : String) (count : Nat)
  /-- A table of this many rows was read from a file. -/
  | tableRead (rows : Nat)
  deriving DecidableEq, Repr

namespace Event

def level : Event → Level
  | typeMismatch .. => .trace
  | noMmsc .. => .debug
  | invalidMmsc .. => .error
  | invalidPort .. => .warn
  | selected .. => .info
  | loading .. => .info
  | fetched .. => .debug
  | tableRead .. => .debug

def message : Event → String
  | typeMismatch _ _ requested => "APN does not serve " ++ requested
  | noMmsc _ => "Skipping APN without MMSC"
  | invalidMmsc _ url => "Invalid MMSC url " ++ url
  | invalidPort _ port fault =>
    "Invalid port " ++ port ++ ", use " ++ Nat.repr defaultProxyPort.toNat ++ ": " ++ fault.message
  | selected .. => "Selected APN"
  | loading _ _ apnName => "Loading APN using name " ++ Text.quote? apnName
  | fetched .. => "Fetched APN candidates"
  | tableRead _ => "Loaded APN table"

def fields : Event → List (String × Field)
  | typeMismatch index types _ => [("index", .number index), ("types", .text (Text.quote? types))]
  | noMmsc index => [("index", .number index)]
  | invalidMmsc index _ => [("index", .number index)]
  | invalidPort index _ _ => [("index", .number index)]
  | selected index settings =>
    [("index", .number index), ("mmsc", .text settings.mmscUrl),
      ("proxy", .text (Text.quote? settings.proxyAddress)),
      ("port", .number settings.proxyPort.toNat)]
  | loading requestId subId _ => [("request_id", .text requestId), ("sub_id", .number subId)]
  | fetched requestId count => [("request_id", .text requestId), ("count", .number count)]
  | tableRead rows => [("rows", .number rows)]

/-- The entry that logs an event. -/
def entry (span : Option String) (e : Event) : Entry := ⟨e.level, e.message, e.fields, span⟩

end Event

end AccessPoint.Log

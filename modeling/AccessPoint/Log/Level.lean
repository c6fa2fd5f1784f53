import AccessPoint.Error
import AccessPoint.Text.Blank
import AccessPoint.Text.Numeral

/-!
# Log levels

The five levels, from the most urgent to the most talkative, and the texts that denote them: a name
in any ASCII case, or a numeral from 1 for `ERROR` to 5 for `TRACE`.
-/

namespace AccessPoint.Log

/-- How urgent a log entry is. -/
inductive Level
  | error
  | warn
  | info
  | debug
  | trace
  deriving DecidableEq, Repr, Inhabited

namespace Level

/-- All levels, most urgent first. -/
def all : List Level := [error, warn, info, debug, trace]

/-- The name of a level. -/
def label : Level → String
  | error => "ERROR"
  | warn => "WARN"
  | info => "INFO"
  | debug => "DEBUG"
  | trace => "TRACE"

/-- The numeral of a level: one for the most urgent, five for the most talkative. -/
def rank : Level → Nat
  | error => 1
  | warn => 2
  | info => 3
  | debug => 4
  | trace => 5

/-- Whether entries of level `m` are shown where `l` is the limit. -/
def shows (l m : Level) : Bool := m.rank ≤ l.rank

/-- Numerals for levels are read up to here. -/
def numeralLimit : Nat := UInt64.size - 1

/-- The level that a text without surrounding spaces denotes. -/
def ofText? (s : String) : Option Level :=
  match Text.Numeral.read numeralLimit s with
  | .ok n => all.find? fun l ↦ l.rank == n
  | .error _ => all.find? fun l ↦ l.label.toList == s.toList.map Char.toUpper

/-- The level that a text denotes, spaces around it aside. -/
def parse (text : String) : Except Error Level :=
  match ofText? (Text.trimSpace text) with
  | some level => .ok level
  | none => .error (.config (.level text))

end Level

end AccessPoint.Log

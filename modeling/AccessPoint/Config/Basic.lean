import AccessPoint.Log.Config
import AccessPoint.Record.Types

/-!
# Configuration of lookups

A configuration names the APN type to request, an access point name for lookups that give none, and
how to log. It is valid when its type can stand as one entry in a row's list of types, and its level
is one.
-/

namespace AccessPoint

/-- How to log, with the level still a text. -/
structure LogSettings where
  level : String := "info"
  json : Bool := false
  deriving DecidableEq, Repr, Inhabited

/-- The configuration of the application with the given name. -/
def LogSettings.toConfig (s : LogSettings) (appName : String) : Except Error Log.Config :=
  (Log.Level.parse s.level).map fun level ↦ { level, json := s.json, appName }

/-- Configuration of lookups. -/
structure Config where
  apnType : String := Types.mms
  apnName : Option String := none
  logging : LogSettings := {}
  deriving DecidableEq, Repr, Inhabited

namespace Config

/-- Checks the type first, then the level. -/
def validate (c : Config) : Except Error Unit :=
  let type := Text.trimSpace c.apnType
  if type.isEmpty then .error (.config .emptyType)
  else if type ≠ c.apnType ∨ type.toList.contains ',' then
    .error (.config (.compoundType c.apnType))
  else (Log.Level.parse c.logging.level).map fun _ ↦ ()

/-- The configuration itself if it is valid. -/
def validated (c : Config) : Except Error Config := c.validate.map fun _ ↦ c

end Config

end AccessPoint

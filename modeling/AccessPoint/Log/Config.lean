import AccessPoint.Log.Level

/-!
# Log configuration

What is shown of a log and how, once the level is known.
-/

namespace AccessPoint.Log

/-- How log lines are shown. -/
structure Config where
  level : Level := .info
  /-- Whether lines are JSON. -/
  json : Bool := false
  /-- Whether lines name the place in the program that they come from. -/
  fileInfo : Bool := false
  appName : String := "mms-apn"
  deriving DecidableEq, Repr, Inhabited

end AccessPoint.Log

import AccessPoint.Log.Config

/-!
# Installing logging

A `Console` is the place where log lines appear. Logging is installed on it once; later attempts are
refused. Neither they nor a request whose text is no level change anything.
-/

namespace AccessPoint.Log

/-- A line on the console. -/
structure Line where
  level : Level
  message : String
  /-- Whether the line names the place in the program that it comes from. -/
  placed : Bool
  deriving DecidableEq, Repr

/-- Where log lines appear: the configuration installed, and the lines shown so far. -/
structure Console where
  installed : Option Config := none
  lines : List Line := []
  deriving DecidableEq, Repr, Inhabited

namespace Console

/-- Installs logging unless it is installed already, and announces it where its level shows
information. -/
def install (c : Config) (console : Console) : Except Error Unit × Console :=
  match console.installed with
  | some _ => (.error (.config .installed), console)
  | none =>
    let line : Line := ⟨.info, "Logging initialized for " ++ c.appName, c.fileInfo⟩
    (.ok (), ⟨some c, console.lines ++ if c.level.shows .info then [line] else []⟩)

end Console

/-- A request to install logging, with the level still a text. -/
structure Request where
  level : String
  appName : String
  json : Bool := false
  fileInfo : Bool := false
  deriving DecidableEq, Repr

namespace Request

/-- The configuration asked for. -/
def config (r : Request) : Except Error Config :=
  (Level.parse r.level).map fun level ↦ ⟨level, r.json, r.fileInfo, r.appName⟩

/-- Carries out a request on a console. -/
def run (r : Request) (console : Console) : Except Error Unit × Console :=
  match r.config with
  | .ok c => console.install c
  | .error e => (.error e, console)

/-- Carries out requests in order: the answer to each, and the console at the end. -/
def runAll : List Request → Console → List (Except Error Unit) × Console
  | [], console => ([], console)
  | r :: rs, console =>
    let (answer, console) := r.run console
    let (answers, console) := runAll rs console
    (answer :: answers, console)

end Request

end AccessPoint.Log

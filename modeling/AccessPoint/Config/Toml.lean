import AccessPoint.Config.Basic
import AccessPoint.File
import AccessPoint.Toml.Reader

/-!
# Configurations as TOML

A configuration is written as the texts `apn_type` and `apn_name` and the table `logging` with the
text `level` and the boolean `json`; what is missing keeps its default, and other keys are passed
over. `logging` may also be an array of the level and the boolean, in which anything may follow.
A configuration that is read is valid.
-/

namespace AccessPoint

open Toml (Tree Value)

/-- The log settings of a table or an array. A moment in time counts as a table without entries. -/
def LogSettings.ofToml? : Value → Option LogSettings
  | .table entries => ofParts (entries.lookup "level") (entries.lookup "json")
  | .array items => ofParts items[0]? items[1]?
  | .moment => some {}
  | _ => none
where
  /-- The settings of an optional level and an optional boolean. -/
  ofParts (level json : Option Value) : Option LogSettings := do
    let defaults : LogSettings := {}
    return {
      level := ← Value.orDefault defaults.level Value.string? level
      json := ← Value.orDefault defaults.json Value.boolean? json }

namespace Config

/-- The configuration that a document describes, valid or not. -/
def ofToml? (tree : Tree) : Option Config := do
  let defaults : Config := {}
  return {
    apnType := ← Value.orDefault defaults.apnType Value.string? (tree.lookup "apn_type")
    apnName := ← Value.orDefault defaults.apnName (fun v ↦ v.string?.map some)
      (tree.lookup "apn_name")
    logging := ← Value.orDefault defaults.logging LogSettings.ofToml? (tree.lookup "logging") }

/-- The valid configuration of a text. -/
def parse (s : String) : Except Error Config :=
  match (Toml.parse s).bind ofToml? with
  | some c => c.validated
  | none => .error .document

/-- The valid configuration of a file. -/
def read (file : File) : Except Error Config := file.text.bind parse

end Config

end AccessPoint

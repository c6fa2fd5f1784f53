import AccessPoint.File
import AccessPoint.Log.Entry
import AccessPoint.Table.Basic
import AccessPoint.Toml.Reader

/-!
# Tables as TOML

A table is written as an array of tables under the key `apn`. Each has the number of its
subscription under `sub_id`, and a text for every column that is set. Other keys are passed over
whatever their values. A document is read as a whole or not at all.
-/

namespace AccessPoint

open Toml (Tree Value)
open Log (Event Traced)

/-- The value of a column in the table that describes a row, `none` if it is no text. -/
def Column.ofToml? (entries : Tree) (c : Column) : Option (Option String) :=
  Value.orDefault none (fun v ↦ v.string?.map some) (entries.lookup c.label)

/-- The row that a table describes. -/
def Row.ofToml? (v : Value) : Option Row := do
  let entries ← v.table?
  let subId ← (← entries.lookup "sub_id").integer? Int32.minValue.toInt Int32.maxValue.toInt
  let values ← Column.all.mapM (Column.ofToml? entries)
  return ⟨Int32.ofInt subId, Record.ofValues values⟩

namespace Table

/-- The table that a document describes. -/
def ofToml? (tree : Tree) : Option Table :=
  match tree.lookup "apn" with
  | none => some empty
  | some v => do
    let rows ← (← v.array?).mapM Row.ofToml?
    return ⟨rows⟩

/-- The table of a text. -/
def parse (s : String) : Except Error Table :=
  match (Toml.parse s).bind ofToml? with
  | some t => .ok t
  | none => .error .document

/-- The table of a file. Only success is logged. -/
def read (file : File) : Traced (Except Error Table) :=
  match file.text.bind parse with
  | .ok t => ⟨.ok t, [(Event.tableRead t.size).entry none]⟩
  | .error e => ⟨.error e, []⟩

end Table

end AccessPoint

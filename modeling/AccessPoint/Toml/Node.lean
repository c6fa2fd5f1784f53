import AccessPoint.Toml.Value

/-!
# Tables under construction

A document defines its tables piece by piece, and how a table came to be decides what may still be
added to it. While a document is read its tables are therefore kept as nodes, which record that:

* a table with a header of its own is never opened again, neither by a header nor by a dotted key;
* a table implied by the header of a table within it may be opened by one header later;
* a table made by a dotted key takes further pairs from dotted keys only;
* an array of tables is extended by headers, and its last table stands for it in longer keys.

`Entries.add` extends a table by a pair, `Entries.openTable` and `Entries.extendSeries` by all that
stands under a header, and `Entries.close` forgets how the tables came to be.
-/

namespace AccessPoint.Toml

/-- How a table came to be. -/
inductive Standing
  /-- By its own header, or as the table that a document is. -/
  | header
  /-- By the header of a table within it. -/
  | implied
  /-- By a dotted key. -/
  | dotted
  deriving DecidableEq, Repr

/-- A value or a table under construction. -/
inductive Node
  | value (v : Value)
  | table (standing : Standing) (entries : List (String × Node))
  /-- An array of tables: the last one, and those before it from last to first. -/
  | series (last : List (String × Node)) (earlier : List (List (String × Node)))

/-- The entries of a table under construction. -/
abbrev Entries := List (String × Node)

/-- A key of one or more parts: the last part, and the path of those before it. -/
structure Key where
  path : List String
  last : String
  deriving DecidableEq, Repr

/-- A key and the value given to it. -/
structure Pair where
  key : Key
  value : Value

namespace Entries

/-- The entries with `node` under `name`, in the place of what was there. -/
def put (name : String) (node : Node) : Entries → Entries
  | [] => [(name, node)]
  | (k, n) :: es => if k = name then (name, node) :: es else (k, n) :: put name node es

/-- Changes the table at the end of a path. Tables that are missing on the way are made with the
standing `made`. An array of tables leads on to its last table, a value leads nowhere, and dotted
keys do not enter a table with a header of its own. The change is told the standing of its table. -/
def change (made : Standing) (f : Standing → Entries → Option Entries) :
    List String → Standing → Entries → Option Entries
  | [], standing, es => f standing es
  | name :: path, _, es =>
    match es.lookup name with
    | none => (change made f path made []).map fun sub ↦ put name (.table made sub) es
    | some (.value _) => none
    | some (.series last earlier) =>
      (change made f path .header last).map fun last ↦ put name (.series last earlier) es
    | some (.table standing sub) =>
      if made = .dotted ∧ standing = .header then none
      else (change made f path standing sub).map fun sub ↦ put name (.table standing sub) es

/-- The entries with one more pair. A dotted key ends in a table made by dotted keys; a key is given
a value once. -/
def add (es : Entries) (pair : Pair) : Option Entries :=
  change .dotted
    (fun standing es ↦
      if ¬pair.key.path.isEmpty ∧ standing ≠ .dotted then none
      else if (es.lookup pair.key.last).isSome then none
      else some (es ++ [(pair.key.last, .value pair.value)]))
    pair.key.path .header es

/-- The entries of a table with the given pairs added in order. -/
def addAll (pairs : List Pair) (es : Entries) : Option Entries := pairs.foldlM add es

/-- The entries with a table under a header, and its pairs: a new table, or one that was only
implied until now. -/
def openTable (key : Key) (pairs : List Pair) (es : Entries) : Option Entries :=
  change .implied
    (fun _ es ↦
      let within := match es.lookup key.last with
        | none => some []
        | some (.table .implied sub) => some sub
        | some _ => none
      within.bind (addAll pairs) |>.map fun sub ↦ put key.last (.table .header sub) es)
    key.path .header es

/-- The entries with one more table in an array of tables. -/
def extendSeries (key : Key) (pairs : List Pair) (es : Entries) : Option Entries :=
  change .implied
    (fun _ es ↦
      let earlier := match es.lookup key.last with
        | none => some []
        | some (.series last earlier) => some (last :: earlier)
        | some _ => none
      earlier.bind fun earlier ↦
        (addAll pairs []).map fun last ↦ put key.last (.series last earlier) es)
    key.path .header es

end Entries

mutual

/-- The value of a node. -/
def Node.close : Node → Value
  | .value v => v
  | .table _ es => .table (Entries.close es)
  | .series last earlier => .array (Entries.closeAll earlier [.table (Entries.close last)])

/-- The entries of a finished table. -/
def Entries.close : List (String × Node) → Tree
  | [] => []
  | (name, node) :: es => (name, node.close) :: Entries.close es

/-- Finished tables from last to first, in front of those already finished. -/
def Entries.closeAll : List (List (String × Node)) → List Value → List Value
  | [], done => done
  | es :: earlier, done => Entries.closeAll earlier (.table (Entries.close es) :: done)

end

/-- The table of pairs on their own, as between the braces of an inline table. -/
def inlineTable (pairs : List Pair) : Option Value :=
  (Entries.addAll pairs []).map fun es ↦ .table (Entries.close es)

end AccessPoint.Toml

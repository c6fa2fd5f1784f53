import AccessPoint.Toml.Moment
import AccessPoint.Toml.Node
import AccessPoint.Toml.Number
import AccessPoint.Toml.Text

/-!
# Reading TOML

`Toml.parse` reads a whole TOML 1.0 document into its tree, or refuses it. The text is first read
into a `Document`, which holds its keys, values and headers in order; whether the tables that they
define agree with each other is decided in a second step.
-/

namespace AccessPoint.Toml

open Text (Reader word? mark?)

/-! ### Keys -/

/-- Characters of a key without quotes. -/
def isBareChar (c : Char) : Bool := c.isAlphanum || c == '-' || c == '_'

/-- One part of a key: a string on one line, or bare characters. -/
def keyPart : Reader String := fun cs ↦
  match shortString cs with
  | some r => some r
  | none =>
    let bare := cs.takeWhile isBareChar
    if bare.isEmpty then none else some (String.ofList bare, cs.dropWhile isBareChar)

/-- Parts of a key, parted by dots; blanks may stand around each. -/
def keyParts : Nat → Reader (List String)
  | 0, _ => none
  | n + 1, cs => do
    let (part, cs) ← keyPart (skipBlanks cs)
    match skipBlanks cs with
    | '.' :: cs =>
      let (parts, cs) ← keyParts n cs
      return (part :: parts, cs)
    | cs => return ([part], cs)

/-- Arrays and inline tables are nested, and keys are dotted, less deep than this. -/
def depthLimit : Nat := 80

/-- A key of fewer than `depthLimit` parts. -/
def key : Reader Key := fun cs ↦ do
  let (parts, cs) ← keyParts (depthLimit - 1) cs
  let last ← parts.getLast?
  return (⟨parts.dropLast, last⟩, cs)

/-! ### Values -/

/-- A value without others in it. -/
def scalar : Reader Value := fun cs ↦
  match cs with
  | [] => none
  | c :: _ =>
    if c = quoteMark ∨ c = apostrophe then
      (anyString cs).map fun (text, rest) ↦ (.string text, rest)
    else if c = 't' then (word? "true" cs).map (.boolean true, ·)
    else if c = 'f' then (word? "false" cs).map (.boolean false, ·)
    else if startsDate cs || startsTime cs then moment cs
    else number cs

/-- The items of an array after its opening bracket or a comma, each read by `item`. A comma may
stand after the last. -/
def arrayItems (item : Reader Value) : Nat → Reader (List Value)
  | 0, _ => none
  | n + 1, cs =>
    match skipGap false cs with
    | ']' :: cs => some ([], cs)
    | cs => do
      let (v, cs) ← item cs
      match skipGap false cs with
      | ',' :: cs =>
        let (vs, cs) ← arrayItems item n cs
        return (v :: vs, cs)
      | ']' :: cs => return ([v], cs)
      | _ => none

/-- A key, an equals sign and a value read by `item`. -/
def pair (item : Reader Value) : Reader Pair := fun cs ↦ do
  let (key, cs) ← key cs
  let (v, cs) ← item (skipBlanks (← mark? '=' cs))
  return (⟨key, v⟩, cs)

/-- The pairs of an inline table after its opening brace or a comma, on one line but for what their
values hold. -/
def inlinePairs (item : Reader Value) : Nat → Reader (List Pair)
  | 0, _ => none
  | n + 1, cs => do
    let (p, cs) ← pair item cs
    match skipBlanks cs with
    | ',' :: cs =>
      let (ps, cs) ← inlinePairs item n cs
      return (p :: ps, cs)
    | '\x7d' :: cs => return ([p], cs)
    | _ => none

/-- A value with at most `depth` arrays and inline tables around its scalars, and fewer than `width`
entries in each. -/
def value (width : Nat) : (depth : Nat) → Reader Value
  | depth, '[' :: cs =>
    match depth with
    | 0 => none
    | depth + 1 =>
      (arrayItems (value width depth) width cs).map fun (vs, cs) ↦ (.array vs, cs)
  | depth, '\x7b' :: cs =>
    match depth with
    | 0 => none
    | depth + 1 =>
      match skipBlanks cs with
      | '\x7d' :: cs => some (.table [], cs)
      | cs => do
        let (ps, cs) ← inlinePairs (value width depth) width cs
        return (← inlineTable ps, cs)
  | _, cs => scalar cs

/-! ### Documents -/

/-- A table with a header, or one more table in an array of tables. -/
inductive Section.Kind
  | table
  | element
  deriving DecidableEq, Repr

/-- A header and the pairs below it. -/
structure Section where
  kind : Section.Kind
  key : Key
  pairs : List Pair

/-- The pairs in front of the first header, and the sections after it. -/
structure Document where
  top : List Pair
  sections : List Section

/-- A line that defines something. -/
inductive Line
  | pair (p : Pair)
  | header (kind : Section.Kind) (key : Key)

/-- A header after its first bracket. -/
def header : Reader Line := fun cs ↦
  match cs with
  | '[' :: cs => do
    let (key, cs) ← key cs
    return (.header .element key, ← word? "]]" cs)
  | cs => do
    let (key, cs) ← key cs
    return (.header .table key, ← mark? ']' cs)

/-- The defining lines of a text of at most `n` lines, their values read by `item`. -/
def lines (item : Reader Value) : Nat → List Char → Option (List Line)
  | 0, _ => none
  | n + 1, cs =>
    match skipBlanks cs with
    | [] => some []
    | c :: cs => do
      if c = '\n' ∨ c = '\r' ∨ c = '#' then
        lines item n (← restOfLine? (c :: cs))
      else
        let (line, cs) ←
          if c = '[' then header cs
          else (pair item (c :: cs)).map fun (p, cs) ↦ (.pair p, cs)
        return line :: (← lines item n (← restOfLine? cs))

/-- The document of the given lines. -/
def Document.ofLines : List Line → Document
  | [] => ⟨[], []⟩
  | .pair p :: ls =>
    let d := ofLines ls
    ⟨p :: d.top, d.sections⟩
  | .header kind key :: ls =>
    let d := ofLines ls
    ⟨[], ⟨kind, key, d.top⟩ :: d.sections⟩

/-- The entries of a document with one more section. -/
def Entries.addSection (root : Entries) (s : Section) : Option Entries :=
  match s.kind with
  | .table => root.openTable s.key s.pairs
  | .element => root.extendSeries s.key s.pairs

/-- The tree that a document defines, if its tables agree with each other. -/
def Document.tree? (d : Document) : Option Tree := do
  let root ← Entries.addAll d.top []
  return Entries.close (← d.sections.foldlM Entries.addSection root)

/-- The tree of a whole text. A byte order mark may stand in front of it. A text has no more lines
and entries than characters, the last line apart. -/
def parse (s : String) : Option Tree :=
  let cs := match s.toList with
    | c :: cs => if c = '\ufeff' then cs else c :: cs
    | [] => []
  let size := cs.length + 1
  (lines (value size (depthLimit - 1)) size cs).bind fun ls ↦ (Document.ofLines ls).tree?

end AccessPoint.Toml

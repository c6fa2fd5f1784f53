import AccessPoint.Text.Hex
import AccessPoint.Text.Reader
import AccessPoint.Toml.Gap

/-!
# TOML strings

The four forms of a string: basic strings between double quotes, in which a backslash begins an
escape, and literal strings between single quotes, in which nothing does; each on one line, or
between three quotes over several. In the long forms a line end right after the opening is dropped,
every other one counts as a line feed, and up to two quotes may stand before the closing three.
-/

namespace AccessPoint.Toml

open Text (Reader)

/-- The double quote. -/
def quoteMark : Char := '\x22'

/-- The single quote. -/
def apostrophe : Char := '\x27'

/-- Characters that stand for themselves in a basic string: the tab, and all but controls, quote and
backslash. -/
def isBasicChar (c : Char) : Bool := isCommentChar c && c != quoteMark && c != '\\'

/-- Characters of a literal string. -/
def isLiteralChar (c : Char) : Bool := isCommentChar c && c != apostrophe

/-- The character whose number the hexadecimal digits write. Surrogates are no characters. -/
def scalar? (digits : List Char) : Option Char := do
  let n ← Text.hexNumber? digits
  if n.isValidChar then some (Char.ofNat n) else none

/-- The character that a one-letter escape stands for. -/
def letterEscape? (c : Char) : Option Char :=
  if c = quoteMark ∨ c = '\\' then some c
  else if c = 'b' then some '\x08'
  else if c = 't' then some '\t'
  else if c = 'n' then some '\n'
  else if c = 'f' then some '\x0c'
  else if c = 'r' then some '\r'
  else none

/-- The character of an escape after its backslash, and the number of characters it takes. -/
def escape? : List Char → Option (Char × Nat)
  | 'u' :: cs => if (cs.take 4).length = 4 then (scalar? (cs.take 4)).map (·, 5) else none
  | 'U' :: cs => if (cs.take 8).length = 8 then (scalar? (cs.take 8)).map (·, 9) else none
  | c :: _ => (letterEscape? c).map (·, 1)
  | [] => none

/-- The number of characters `q` at the head. -/
def quoteRun (q : Char) (cs : List Char) : Nat := (cs.takeWhile (· == q)).length

/-- A basic string after its opening quote. The first argument is the number of characters still to
be passed over as part of an escape. -/
def basicBody : Nat → Reader (List Char)
  | _, [] => none
  | k + 1, _ :: cs => basicBody k cs
  | 0, c :: cs =>
    if c = quoteMark then some ([], cs)
    else if c = '\\' then do
      let (e, k) ← escape? cs
      let (text, rest) ← basicBody k cs
      return (e :: text, rest)
    else if isBasicChar c then (basicBody 0 cs).map fun (text, rest) ↦ (c :: text, rest)
    else none

/-- A literal string after its opening quote. -/
def literalBody : Reader (List Char)
  | [] => none
  | c :: cs =>
    if c = apostrophe then some ([], cs)
    else if isLiteralChar c then (literalBody cs).map fun (text, rest) ↦ (c :: text, rest)
    else none

/-- The end of a long string that begins with a run of `n` quotes `q` in front of `cs`: the quotes
before the closing three belong to the text. -/
def closing? (q : Char) (n : Nat) (cs : List Char) : Option (List Char × List Char) :=
  if n ≤ 5 then some (List.replicate (n - 3) q, cs.drop n) else none

/-- Whether a backslash in front of these characters joins lines: only blanks follow it on its own
line. -/
def joinsLines (cs : List Char) : Bool := (lineEnd? (skipBlanks cs)).isSome

/-- What is passed over before the next character of a long basic string counts. -/
inductive Pending
  | nothing
  /-- The characters of an escape that are still to come. -/
  | escape (n : Nat)
  /-- Blanks and line ends after a backslash that joins lines. -/
  | gap

/-- A long basic string after its opening quotes. -/
def longBasicBody : Pending → Reader (List Char)
  | _, [] => none
  | .escape (k + 1), _ :: cs => longBasicBody (.escape k) cs
  | pending, c :: cs =>
    let isGap := match pending with
      | .gap => isBlank c || (lineEnd? (c :: cs)).isSome
      | _ => false
    let after : Pending := match pending with
      | .gap => .gap
      | _ => .nothing
    if c = '\r' ∧ cs.head? = some '\n' then longBasicBody after cs
    else if isGap then longBasicBody .gap cs
    else if c = quoteMark ∧ 3 ≤ quoteRun quoteMark (c :: cs) then
      closing? quoteMark (quoteRun quoteMark (c :: cs)) (c :: cs)
    else if c = '\\' then
      if joinsLines cs then longBasicBody .gap cs
      else do
        let (e, k) ← escape? cs
        let (text, rest) ← longBasicBody (.escape k) cs
        return (e :: text, rest)
    else if isBasicChar c ∨ c = quoteMark ∨ c = '\n' then
      (longBasicBody .nothing cs).map fun (text, rest) ↦ (c :: text, rest)
    else none

/-- A long literal string after its opening quotes. -/
def longLiteralBody : Reader (List Char)
  | [] => none
  | c :: cs =>
    if c = '\r' ∧ cs.head? = some '\n' then longLiteralBody cs
    else if c = apostrophe ∧ 3 ≤ quoteRun apostrophe (c :: cs) then
      closing? apostrophe (quoteRun apostrophe (c :: cs)) (c :: cs)
    else if isLiteralChar c ∨ c = apostrophe ∨ c = '\n' then
      (longLiteralBody cs).map fun (text, rest) ↦ (c :: text, rest)
    else none

/-- The characters without a line end at their head. -/
def dropLineEnd (cs : List Char) : List Char := (lineEnd? cs).getD cs

/-- A string on one line. -/
def shortString : Reader String
  | [] => none
  | c :: cs =>
    if c = quoteMark then (basicBody 0 cs).map fun (text, rest) ↦ (String.ofList text, rest)
    else if c = apostrophe then
      (literalBody cs).map fun (text, rest) ↦ (String.ofList text, rest)
    else none

/-- A string of any form. -/
def anyString : Reader String := fun cs ↦
  if 3 ≤ quoteRun quoteMark cs then
    (longBasicBody .nothing (dropLineEnd (cs.drop 3))).map fun (text, rest) ↦
      (String.ofList text, rest)
  else if 3 ≤ quoteRun apostrophe cs then
    (longLiteralBody (dropLineEnd (cs.drop 3))).map fun (text, rest) ↦ (String.ofList text, rest)
  else shortString cs

end AccessPoint.Toml

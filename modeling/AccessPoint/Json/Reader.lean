import AccessPoint.Json.Value
import AccessPoint.Text.Hex
import AccessPoint.Text.Reader

/-!
# Reading JSON

`Json.parse` reads a whole JSON text into its tree. Nesting is not limited, and numbers may have any
size.
-/

namespace AccessPoint.Json

open Text (Reader word? mark?)

/-- The characters that may stand between tokens. -/
def isGap (c : Char) : Bool := c == ' ' || c == '\n' || c == '\t' || c == '\r'

/-- The characters after a gap. -/
def skipGap (cs : List Char) : List Char := cs.dropWhile isGap

/-! ### Strings -/

/-- The character that a one-letter escape stands for. -/
def shortEscape? (c : Char) : Option Char :=
  if c = '\x22' ∨ c = '\\' ∨ c = '/' then some c
  else if c = 'b' then some '\x08'
  else if c = 'f' then some '\x0c'
  else if c = 'n' then some '\n'
  else if c = 'r' then some '\r'
  else if c = 't' then some '\t'
  else none

/-- The code units of a string after its opening quote, up to and past the closing one. A character
counts as one unit whatever its number; escapes by number give the unit they name. -/
def units? : Reader (List Nat)
  | '\\' :: 'u' :: a :: b :: c :: d :: cs => do
    let unit ← Text.hexNumber? [a, b, c, d]
    let (units, rest) ← units? cs
    return (unit :: units, rest)
  | '\\' :: e :: cs => do
    let c ← shortEscape? e
    let (units, rest) ← units? cs
    return (c.toNat :: units, rest)
  | c :: cs =>
    if c = '\x22' then some ([], cs)
    else if c = '\\' ∨ c.toNat < 0x20 then none
    else (units? cs).map fun (units, rest) ↦ (c.toNat :: units, rest)
  | [] => none

/-- First halves of surrogate pairs. -/
def isHigh (u : Nat) : Bool := 0xD800 ≤ u && u ≤ 0xDBFF

/-- Second halves of surrogate pairs. -/
def isLow (u : Nat) : Bool := 0xDC00 ≤ u && u ≤ 0xDFFF

/-- The characters that units stand for: surrogates in pairs, everything else by itself. -/
def decodeUnits? : List Nat → Option (List Char)
  | u :: v :: us =>
    if isHigh u && isLow v then
      (decodeUnits? us).map (Char.ofNat (0x10000 + (u - 0xD800) * 0x400 + (v - 0xDC00)) :: ·)
    else if isHigh u || isLow u then none
    else (decodeUnits? (v :: us)).map (Char.ofNat u :: ·)
  | [u] => if isHigh u || isLow u then none else some [Char.ofNat u]
  | [] => some []

/-- A string after its opening quote: its text, if it stands for one. -/
def stringBody? : Reader (Option String) := fun cs ↦
  (units? cs).map fun (units, rest) ↦ ((decodeUnits? units).map String.ofList, rest)

/-! ### Numbers -/

/-- One or more digits. -/
def digits? : Reader (List Char) := fun cs ↦
  let (digits, rest) := cs.span Char.isDigit
  if digits.isEmpty then none else some (digits, rest)

/-- An integer without sign: a zero, or digits that begin with none. -/
def wholePart? : Reader (List Char)
  | '0' :: cs => some (['0'], cs)
  | cs => digits? cs

/-- An optional fraction. -/
def fraction? : Reader (List Char)
  | '.' :: cs => (digits? cs).map fun (digits, rest) ↦ ('.' :: digits, rest)
  | cs => some ([], cs)

/-- An optional exponent. -/
def exponent? : Reader (List Char)
  | [] => some ([], [])
  | e :: cs =>
    if e = 'e' ∨ e = 'E' then
      match cs with
      | [] => none
      | sign :: after =>
        if sign = '+' ∨ sign = '-' then
          (digits? after).map fun (digits, rest) ↦ (e :: sign :: digits, rest)
        else (digits? cs).map fun (digits, rest) ↦ (e :: digits, rest)
    else some ([], e :: cs)

/-- A number, as written. -/
def numeral? : Reader Json := fun cs ↦ do
  let (sign, cs) := match cs with
    | '-' :: cs => (['-'], cs)
    | cs => ([], cs)
  let (whole, cs) ← wholePart? cs
  let (fraction, cs) ← fraction? cs
  let (exponent, cs) ← exponent? cs
  return (.number (String.ofList (sign ++ whole ++ fraction ++ exponent)), cs)

/-! ### Values -/

/-- The items of an array after its opening bracket or a comma, each read by `item`. -/
def items (item : Reader Json) : Nat → Reader (List Json)
  | 0, _ => none
  | n + 1, cs => do
    let (v, cs) ← item cs
    match skipGap cs with
    | ',' :: cs =>
      let (vs, cs) ← items item n cs
      return (v :: vs, cs)
    | ']' :: cs => return ([v], cs)
    | _ => none

/-- The members of an object after its opening brace or a comma, each value read by `item`. -/
def members (item : Reader Json) : Nat → Reader (List (Option String × Json))
  | 0, _ => none
  | n + 1, cs => do
    let (name, cs) ← stringBody? (← mark? '\x22' (skipGap cs))
    let (v, cs) ← item (← mark? ':' (skipGap cs))
    match skipGap cs with
    | ',' :: cs =>
      let (vs, cs) ← members item n cs
      return ((name, v) :: vs, cs)
    | '\x7d' :: cs => return ([(name, v)], cs)
    | _ => none

/-- A value with at most `n` arrays and objects around its scalars and at most `n` entries in each;
a gap may stand before it. -/
def value : Nat → Reader Json
  | 0, _ => none
  | n + 1, cs =>
    match skipGap cs with
    | [] => none
    | '[' :: cs =>
      match skipGap cs with
      | ']' :: cs => some (.array [], cs)
      | cs => (items (value n) n cs).map fun (vs, cs) ↦ (.array vs, cs)
    | '\x7b' :: cs =>
      match skipGap cs with
      | '\x7d' :: cs => some (.object [], cs)
      | cs => (members (value n) n cs).map fun (ms, cs) ↦ (.object ms, cs)
    | c :: cs =>
      if c = '\x22' then (stringBody? cs).map fun (text, cs) ↦ (.string text, cs)
      else if c = 'n' then (word? "ull" cs).map fun cs ↦ (.null, cs)
      else if c = 't' then (word? "rue" cs).map fun cs ↦ (.boolean true, cs)
      else if c = 'f' then (word? "alse" cs).map fun cs ↦ (.boolean false, cs)
      else numeral? (c :: cs)

/-- The tree of a whole JSON text. A text has no more brackets and entries than characters. -/
def parse (s : String) : Option Json :=
  match value (s.length + 1) s.toList with
  | some (v, cs) => if (skipGap cs).isEmpty then some v else none
  | none => none

end AccessPoint.Json

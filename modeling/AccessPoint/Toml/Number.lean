import AccessPoint.Text.Hex
import AccessPoint.Text.Reader
import AccessPoint.Toml.Value

/-!
# TOML numbers

Integers are decimal with an optional sign, or hexadecimal, octal or binary without one, and must
fit in 64 bits with a sign. A decimal integer with a fraction or an exponent behind it is a float;
so are `inf` and `nan`. Underscores may stand between digits. A float that rounds to positive
infinity is refused, one that rounds to negative infinity is not.
-/

namespace AccessPoint.Toml

open Text (Reader word?)

/-- The least integer. -/
def leastInteger : Int := Int64.minValue.toInt

/-- The greatest integer. -/
def greatestInteger : Int := Int64.maxValue.toInt

/-- Octal digits. -/
def isOctal (c : Char) : Bool := '0' ≤ c && c ≤ '7'

/-- Binary digits. -/
def isBinary (c : Char) : Bool := c == '0' || c == '1'

/-- Hexadecimal digits. -/
def isHex (c : Char) : Bool := (Text.hexValue? c).isSome

/-- Digits of the class `p`, with single underscores between them; the result holds the digits. The
first argument says whether a digit has been read just before. -/
def digitRun (p : Char → Bool) : Bool → Reader (List Char)
  | after, [] => if after then some ([], []) else none
  | after, c :: cs =>
    if p c then (digitRun p true cs).map fun (ds, rest) ↦ (c :: ds, rest)
    else if after then if c = '_' then digitRun p false cs else some ([], c :: cs)
    else none

/-- The value of digits in a base. -/
def valueOf (base : Nat) (ds : List Char) : Nat :=
  ds.foldl (fun n c ↦ base * n + (Text.hexValue? c).getD 0) 0

/-- An integer after its prefix. -/
def prefixedInteger (base : Nat) (p : Char → Bool) : Reader Value := fun cs ↦ do
  let (ds, rest) ← digitRun p false cs
  guard (valueOf base ds ≤ greatestInteger)
  return (.integer (valueOf base ds), rest)

/-- The digits in front of a fraction or exponent: a zero, or a run that begins with none. -/
def wholeDigits : Reader (List Char)
  | '0' :: cs => some (['0'], cs)
  | cs => digitRun Char.isDigit false cs

/-- An optional fraction; the result is absent when there is none. -/
def fractionDigits : Reader (Option (List Char))
  | '.' :: cs => (digitRun Char.isDigit false cs).map fun (ds, rest) ↦ (some ds, rest)
  | cs => some (none, cs)

/-- An optional exponent; the result is absent when there is none. -/
def exponentValue : Reader (Option Int)
  | [] => some (none, [])
  | e :: cs =>
    if e = 'e' ∨ e = 'E' then
      let (sign, cs) : Int × List Char := match cs with
        | '+' :: cs => (1, cs)
        | '-' :: cs => (-1, cs)
        | cs => (1, cs)
      (digitRun Char.isDigit false cs).map fun (ds, rest) ↦ (some (sign * valueOf 10 ds), rest)
    else some (none, e :: cs)

/-- The least number that rounds to infinity as a double-precision float. -/
def infinityBound : Nat := Nat.pow 2 1024 - Nat.pow 2 970

/-- Whether `m * 10 ^ e` is at least `infinityBound`. A number of other than 309 digits in front of
the point is told apart by that alone. -/
def overflows (m : Nat) (e : Int) : Bool :=
  let size : Int := (Nat.repr m).length + e
  if m = 0 ∨ size < 309 then false
  else if 309 < size then true
  else if 0 ≤ e then infinityBound ≤ m * Nat.pow 10 e.toNat
  else infinityBound * Nat.pow 10 (-e).toNat ≤ m

/-- A decimal number after its sign: an integer, or a float if it has a fraction or an exponent. -/
def decimal (negative : Bool) : Reader Value := fun cs ↦ do
  let (whole, cs) ← wholeDigits cs
  let (fraction, cs) ← fractionDigits cs
  let (exponent, cs) ← exponentValue cs
  if fraction.isNone && exponent.isNone then
    let n : Int := if negative then -valueOf 10 whole else valueOf 10 whole
    guard (leastInteger ≤ n ∧ n ≤ greatestInteger)
    return (.integer n, cs)
  else
    let fraction := fraction.getD []
    guard (negative || !overflows (valueOf 10 (whole ++ fraction))
      (exponent.getD 0 - fraction.length))
    return (.float, cs)

/-- A number after its sign. -/
def unsigned (negative : Bool) : Reader Value := fun cs ↦
  match word? "inf" cs <|> word? "nan" cs with
  | some cs => some (.float, cs)
  | none => decimal negative cs

/-- A number. -/
def number : Reader Value
  | '+' :: cs => unsigned false cs
  | '-' :: cs => unsigned true cs
  | '0' :: 'x' :: cs => prefixedInteger 16 isHex cs
  | '0' :: 'o' :: cs => prefixedInteger 8 isOctal cs
  | '0' :: 'b' :: cs => prefixedInteger 2 isBinary cs
  | cs => unsigned false cs

end AccessPoint.Toml

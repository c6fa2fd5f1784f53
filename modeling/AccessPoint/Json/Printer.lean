import AccessPoint.Json.Value
import AccessPoint.Text.Hex

/-!
# Printing JSON

The compact text of a JSON tree: no gaps, and no escapes but for the quote, the backslash and the
control characters below U+0020.
-/

namespace AccessPoint.Json

/-- A control character by its number, in four lower-case digits. -/
def unicodeEscape (c : Char) : List Char :=
  let digits := Text.hexDigits c.toNat
  ['\\', 'u'] ++ List.replicate (4 - digits.length) '0' ++ digits

/-- One character as it stands between quotes. -/
def escapeChar (c : Char) : List Char :=
  if c = '\x22' then ['\\', '\x22']
  else if c = '\\' then ['\\', '\\']
  else if c = '\x08' then ['\\', 'b']
  else if c = '\x0c' then ['\\', 'f']
  else if c = '\n' then ['\\', 'n']
  else if c = '\r' then ['\\', 'r']
  else if c = '\t' then ['\\', 't']
  else if c.toNat < 0x20 then unicodeEscape c
  else [c]

/-- A string; one without a text is printed as half of a surrogate pair. -/
def renderText : Option String → List Char
  | some s => '\x22' :: s.toList.flatMap escapeChar ++ ['\x22']
  | none => "\x22\\ud800\x22".toList

mutual

/-- The characters of a value. -/
def renderChars : Json → List Char
  | null => "null".toList
  | boolean b => (if b then "true" else "false").toList
  | number literal => literal.toList
  | string text => renderText text
  | array items => '[' :: renderItems items ++ [']']
  | object members => '\x7b' :: renderMembers members ++ ['\x7d']

/-- The items of an array, parted by commas. -/
def renderItems : List Json → List Char
  | [] => []
  | [v] => renderChars v
  | v :: w :: vs => renderChars v ++ ',' :: renderItems (w :: vs)

/-- The members of an object, parted by commas. -/
def renderMembers : List (Option String × Json) → List Char
  | [] => []
  | [(name, v)] => renderText name ++ ':' :: renderChars v
  | (name, v) :: m :: ms =>
    renderText name ++ ':' :: renderChars v ++ ',' :: renderMembers (m :: ms)

end

/-- The compact text of a value. -/
def render (v : Json) : String := String.ofList (renderChars v)

end AccessPoint.Json

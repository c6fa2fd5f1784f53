import AccessPoint.Text.Hex
import AccessPoint.Text.Hidden

/-!
# Quoted text

The form in which messages and log fields show a text whose ends must be visible: between double
quotes, with the quote, the backslash and hidden characters escaped. An optional text is shown as
`None` or as the quoted text in `Some(…)`.
-/

namespace AccessPoint.Text

/-- One character as it stands between the quotes. -/
def quoteChar (c : Char) : List Char :=
  if c = '\x22' then ['\\', '\x22']
  else if c = '\\' then ['\\', '\\']
  else if c = '\n' then ['\\', 'n']
  else if c = '\r' then ['\\', 'r']
  else if c = '\t' then ['\\', 't']
  else if c = '\x00' then ['\\', '0']
  else if isHidden c then ['\\', 'u', '\x7b'] ++ hexDigits c.toNat ++ ['\x7d']
  else [c]

/-- The text between double quotes. -/
def quote (s : String) : String :=
  String.ofList ('\x22' :: s.toList.flatMap quoteChar ++ ['\x22'])

/-- An optional text, quoted when there is one. -/
def quote? : Option String → String
  | none => "None"
  | some s => "Some(" ++ quote s ++ ")"

end AccessPoint.Text

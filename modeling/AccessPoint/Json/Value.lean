import AccessPoint.Text.Numeral

/-!
# JSON values

The tree of a JSON text. Members of an object keep their order and may repeat a name, since readers
of records have to see a repeated name to refuse it. Numbers are kept as written.

A JSON string may name half of a surrogate pair in an escape and not the other half. It then stands
for no text, which is written `none` here; such a string is well formed, and matters only to those
who want its text.
-/

namespace AccessPoint

/-- The tree of a JSON text. -/
inductive Json
  | null
  | boolean (b : Bool)
  | number (literal : String)
  | string (text : Option String)
  | array (items : List Json)
  | object (members : List (Option String × Json))
  deriving Repr, Inhabited

namespace Json

/-- The string that stands for a text. -/
def ofText (s : String) : Json := string (some s)

/-- The number that stands for a natural number. -/
def ofNat (n : Nat) : Json := number (Nat.repr n)

/-- A value, or null where there is none. -/
def ofOption (f : α → Json) : Option α → Json
  | none => null
  | some a => f a

/-- The object with the given members. -/
def ofMembers (members : List (String × Json)) : Json :=
  object (members.map fun (name, v) ↦ (some name, v))

/-- The text of a string. -/
def text? : Json → Option String
  | string text => text
  | _ => none

/-- A natural number of at most `limit`, written with digits only. -/
def nat? (limit : Nat) : Json → Option Nat
  | number literal =>
    if literal.toList.all Char.isDigit then (Text.Numeral.read limit literal).toOption else none
  | _ => none

/-- Null, or what `f` reads. -/
def nullOr? (f : Json → Option α) : Json → Option (Option α)
  | null => some none
  | v => (f v).map some

/-- The items of an array, each read by `f`. -/
def items? (f : Json → Option α) : Json → Option (List α)
  | array items => items.mapM f
  | _ => none

/-- The member of a given name, `none` for a name that is repeated. -/
def member? (name : String) (members : List (Option String × Json)) : Option (Option Json) :=
  match members.filter fun m ↦ m.1 == some name with
  | [] => some none
  | [m] => some (some m.2)
  | _ => none

/-- The values of named fields. They are the members of an object, in which other names are passed
over, or the items of an array in the order of the names, of which the last may be missing. A
repeated name, a name that is no text and an item too many are refused. -/
def fields? (names : List String) : Json → Option (List (Option Json))
  | object members =>
    if members.all fun m ↦ m.1.isSome then names.mapM fun name ↦ member? name members else none
  | array items =>
    if items.length ≤ names.length then
      some (items.map some ++ List.replicate (names.length - items.length) none)
    else none
  | _ => none

end Json

end AccessPoint

/-!
# Readers of characters

A reader takes the characters that are left and gives what it read with the characters after it, or
nothing if they are not well formed there.
-/

namespace AccessPoint.Text

/-- A reader of values of type `α`. -/
abbrev Reader (α : Type) := List Char → Option (α × List Char)

/-- The characters after a word, if it stands at their head. -/
def word? (w : String) (cs : List Char) : Option (List Char) :=
  if w.toList.isPrefixOf cs then some (cs.drop w.length) else none

/-- The characters after the character `c`, if it stands at their head. -/
def mark? (c : Char) : List Char → Option (List Char)
  | [] => none
  | d :: cs => if d = c then some cs else none

end AccessPoint.Text

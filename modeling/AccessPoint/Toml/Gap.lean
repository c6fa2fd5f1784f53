/-!
# Gaps in TOML text

What may stand between the tokens of a TOML document: blanks within a line, comments up to its end,
and line ends, which are a line feed or a carriage return with a line feed.
-/

namespace AccessPoint.Toml

/-- Spaces and tabs. -/
def isBlank (c : Char) : Bool := c == ' ' || c == '\t'

/-- Characters of a comment: the tab and everything that is no ASCII control. -/
def isCommentChar (c : Char) : Bool := c == '\t' || (0x20 ≤ c.toNat && c.toNat ≠ 0x7F)

/-- The characters after the blanks. -/
def skipBlanks (cs : List Char) : List Char := cs.dropWhile isBlank

/-- The characters after a line end. -/
def lineEnd? : List Char → Option (List Char)
  | '\n' :: cs => some cs
  | '\r' :: '\n' :: cs => some cs
  | _ => none

/-- The characters after the rest of a line: blanks, a comment, and a line end unless the document
ends here. -/
def restOfLine? (cs : List Char) : Option (List Char) :=
  let cs := match skipBlanks cs with
    | '#' :: cs => cs.dropWhile isCommentChar
    | cs => cs
  if cs.isEmpty then some [] else lineEnd? cs

/-- The characters after blanks, comments and line ends, as they may stand in an array; `comment`
says whether the characters begin inside a comment. -/
def skipGap (comment : Bool) : List Char → List Char
  | '\r' :: '\n' :: cs => skipGap false cs
  | c :: cs =>
    if c = '\n' then skipGap false cs
    else if comment then if isCommentChar c then skipGap true cs else c :: cs
    else if isBlank c then skipGap false cs
    else if c = '#' then skipGap true cs
    else c :: cs
  | [] => []

end AccessPoint.Toml

import AccessPoint.Uri.Run

/-!
# Schemes and paths

The components of a URI reference that hold no host: the scheme before the colon, an absolute path,
which begins with a slash, and a relative path, whose first segment has no colon.
-/

namespace AccessPoint.Uri

open Ascii Recogniser

/-- The text of a single ASCII character. -/
def mark (c : Char) : Recogniser := literal [byte c]

/-- A letter, then letters, digits and `+`, `-`, `.`; the colon that follows is not part of it. -/
def scheme : Recogniser := (single isAlpha).andThen (many isScheme)

/-- A slash and a run of path bytes, further slashes among them. -/
def absPath : Recogniser := (mark '/').andThen (run isPath)

/-- A first segment, then an absolute path if one follows. -/
def relPath : Recogniser := (run1 isRelSegment).andThen absPath.optional

end AccessPoint.Uri

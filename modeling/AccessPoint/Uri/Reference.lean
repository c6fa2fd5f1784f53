import AccessPoint.Text.Blank
import AccessPoint.Text.Utf8
import AccessPoint.Uri.Authority

/-!
# URI references

A reference is an absolute or a relative URI with an optional fragment. The recogniser takes the
first alternative that matches; it always matches some prefix, if only the empty one. `isReference`
asks more of a text: that all of it is matched, and that no character outside ASCII is a space or a
control.
-/

namespace AccessPoint.Uri

open Ascii Recogniser

/-- A network path or an absolute path; two leading slashes always begin a network path. -/
def hierPath : Recogniser := netPath.orElse (absPath.barring slashes)

/-- A question mark and a query. -/
def query : Recogniser := (mark '?').andThen (run isUric)

/-- A number sign and a fragment. -/
def fragment : Recogniser := (mark '#').andThen (run isUric)

/-- A hierarchical part: a path and an optional query. -/
def hierPart : Recogniser := hierPath.andThen query.optional

/-- An opaque part: a non-empty run that does not begin with a slash. -/
def opaquePart : Recogniser := (run1 isUric).barring [byte '/']

/-- A scheme, a colon and a hierarchical or opaque part. -/
def absoluteUri : Recogniser :=
  scheme.andThen ((mark ':').andThen (hierPart.orElse opaquePart))

/-- An optional path and an optional query. -/
def relativeUri : Recogniser := (hierPath.orElse relPath).optional.andThen query.optional

/-- An absolute URI, or else a relative one, and an optional fragment. -/
def reference : Recogniser := (absoluteUri.orElse relativeUri).andThen fragment.optional

/-- Characters outside ASCII that no reference holds. -/
def isExcluded (c : Char) : Bool := 0x80 ≤ c.toNat && (Text.isSpace c || Text.isControl c)

/-- Whether the whole text is a URI reference. -/
def isReference (s : String) : Bool :=
  !s.toList.any isExcluded && reference.matchesAll (Text.utf8 s)

end AccessPoint.Uri

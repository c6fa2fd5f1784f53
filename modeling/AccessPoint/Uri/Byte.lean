import AccessPoint.Text.Ascii

/-!
# Byte classes of URI references

The classes of RFC 2396 with the brackets of RFC 2732, over bytes. Bytes outside ASCII count as
`other` characters and may stand wherever unreserved ones may. A percent sign is in no class: it
stands only at the head of an escape.
-/

namespace AccessPoint.Uri

open Ascii

/-- The marks that need no escape. -/
def isMark : UInt8 → Bool := oneOf ['-', '_', '.', '!', '~', '*', '\x27', '(', ')']

/-- Bytes of characters outside ASCII. -/
def isOther (b : UInt8) : Bool := 0x80 ≤ b

/-- Bytes without a meaning of their own in any component. -/
def isUnreserved (b : UInt8) : Bool := isAlphanum b || isMark b || isOther b

/-- Bytes that part components from each other. -/
def isReserved : UInt8 → Bool :=
  oneOf [';', '/', '?', ':', '@', '&', '=', '+', '$', ',', '[', ']']

/-- Unescaped bytes of queries, fragments and opaque parts. -/
def isUric (b : UInt8) : Bool := isReserved b || isUnreserved b

/-- Unescaped bytes of user information. -/
def isUserinfo (b : UInt8) : Bool := isUnreserved b || oneOf [';', ':', '&', '=', '+', '$', ','] b

/-- Unescaped bytes of a registered name; host names, IPv4 hosts and ports are such names too. -/
def isRegName (b : UInt8) : Bool :=
  isUnreserved b || oneOf ['$', ',', ';', ':', '@', '&', '=', '+'] b

/-- Unescaped bytes of an absolute path. -/
def isPath (b : UInt8) : Bool :=
  isUnreserved b || oneOf [':', '@', '&', '=', '+', '$', ',', ';', '/'] b

/-- Unescaped bytes of the first segment of a relative path, which has no colon. -/
def isRelSegment (b : UInt8) : Bool :=
  isUnreserved b || oneOf [';', '@', '&', '=', '+', '$', ','] b

/-- Bytes of a scheme after its first letter. -/
def isScheme (b : UInt8) : Bool := isAlphanum b || oneOf ['+', '-', '.'] b

/-- Bytes of the zone of an IPv6 literal. -/
def isZone (b : UInt8) : Bool := isAlphanum b || oneOf ['-', '.', '_', '~'] b

end AccessPoint.Uri

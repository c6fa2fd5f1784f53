import AccessPoint.Address.Ipv6
import AccessPoint.Uri.Path

/-!
# Authorities

The authority of a URI reference is either a bracketed IPv6 address, with optional user information
before it and an optional port after it, or a registered name, which may be empty. Host names, IPv4
addresses and their ports are registered names.
-/

namespace AccessPoint.Uri

open Ascii Recogniser

/-- Bytes that an IPv6 address is written with. -/
def isIpv6Byte (b : UInt8) : Bool := isHex b || oneOf [':', '.'] b

/-- A percent sign and a zone. -/
def zone : Recogniser := (mark '%').andThen (many1 isZone)

/-- An IPv6 address in brackets, with an optional zone. -/
def ipv6Reference : Recogniser :=
  (mark '[').andThen <|
    ((many1 isIpv6Byte).denoting Ipv6.isText).andThen <| zone.optional.andThen (mark ']')

/-- User information and the `@` after it. -/
def userPart : Recogniser := (run isUserinfo).andThen (mark '@')

/-- A colon and the digits after it, of which there may be none. -/
def portPart : Recogniser := (mark ':').andThen (many isDigit)

/-- Optional user information, a bracketed IPv6 address and an optional port. -/
def literalServer : Recogniser :=
  userPart.optional.andThen (ipv6Reference.andThen portPart.optional)

/-- A registered name. -/
def regName : Recogniser := run isRegName

/-- A server with a bracketed address, or else a registered name. -/
def authority : Recogniser := literalServer.orElse regName

/-- The two slashes in front of an authority. -/
def slashes : List UInt8 := [byte '/', byte '/']

/-- Two slashes, an authority and an optional absolute path. The authority may be empty if something
follows it; two slashes on their own are refused. -/
def netPath : Recogniser := fun s ↦
  if s = slashes then .error ⟨.bare, 0⟩
  else (literal slashes).andThen (authority.andThen absPath.optional) s

end AccessPoint.Uri

/-!
# Settings

What an HTTP layer needs to send or fetch a multimedia message: the URL of the messaging centre, an
optional proxy with its port, and a description of where the settings came from.
-/

namespace AccessPoint

/-- The port of a proxy that names none. -/
def defaultProxyPort : UInt16 := 80

/-- The greatest port number. -/
def maxPort : Nat := 65535

/-- Settings for multimedia messages. -/
structure Settings where
  mmscUrl : String
  proxyAddress : Option String
  proxyPort : UInt16
  description : String
  deriving DecidableEq, Repr, Inhabited

namespace Settings

/-- Whether there is a proxy to go through. -/
def isProxySet (s : Settings) : Bool := s.proxyAddress.any fun proxy ↦ !proxy.isEmpty

/-- The settings on one line. -/
def display (s : Settings) : String :=
  s.mmscUrl ++ " " ++ s.proxyAddress.getD "none" ++ " " ++ Nat.repr s.proxyPort.toNat ++ " " ++
    s.description

end Settings

end AccessPoint

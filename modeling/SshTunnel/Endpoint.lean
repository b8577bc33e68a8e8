/-!
A host and a port, and how they are written together.
-/

namespace SshTunnel

/-- A host and a port; a host with a colon in it is put in brackets. -/
def hostPort (host : String) (port : UInt16) : String :=
  if ':' ∈ host.toList then "[" ++ host ++ "]:" ++ toString port.toNat
  else host ++ ":" ++ toString port.toNat

/-- One end of a connection. -/
structure Endpoint where
  host : String
  port : UInt16
deriving DecidableEq, Repr

def Endpoint.text (e : Endpoint) : String := hostPort e.host e.port

end SshTunnel

import SshTunnel.Failure
import SshTunnel.Key.Public

/-!
Asking a gateway for its host key: a connection is begun, and broken off once the key is known.
-/

namespace SshTunnel

/-- What becomes of looking up a host's address. -/
inductive Lookup
  | found
  | failed (why : String)
  | empty
deriving DecidableEq, Repr

def Lookup.check (l : Lookup) (host : String) (port : UInt16) : Except Failure Unit :=
  match l with
  | .found => .ok ()
  | .failed why => .error (.transportUnreachable
      ("Failed to resolve " ++ host ++ ":" ++ toString port.toNat ++ ": " ++ why))
  | .empty => .error (.transportUnreachable ("No address found for " ++ host))

/-- The failure of a connection that took longer than its limit, in milliseconds. -/
def tooSlow (host : String) (port : UInt16) (limit : Nat) : Failure :=
  .transportUnreachable ("Connection to " ++ host ++ ":" ++ toString port.toNat ++ " timed out after " ++
    toString (limit / 1000) ++ "s")

namespace Preflight

/-- What a gateway does until it has shown its host key. -/
inductive Greeting
  /-- Whatever comes after the key makes no difference. -/
  | shows (key : PublicKey)
  /-- Carries on without a key. -/
  | keyless
  | breaksOff (e : Failure)
  /-- Does nothing until time is up. -/
  | stalls
deriving DecidableEq, Repr

/-- The key that a gateway shows. -/
def fetch (l : Lookup) (g : Greeting) (host : String) (port : UInt16) (limit : Nat) :
    Except Failure PublicKey := do
  l.check host port
  match g with
  | .shows k => .ok k
  | .keyless => .error (.hostKeyUnresolved "handshake completed without presenting a host key")
  | .breaksOff e => .error (.transportUnreachable
      ("Connection to " ++ host ++ ":" ++ toString port.toNat ++ " failed: " ++ e.text))
  | .stalls => .error (tooSlow host port limit)

end Preflight

end SshTunnel

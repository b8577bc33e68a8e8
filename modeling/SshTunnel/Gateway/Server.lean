import SshTunnel.Gateway.Session

/-!
A gateway that keeps to the rules: its host keys, and the one user whom it lets in.
-/

namespace SshTunnel

structure Server where
  hostKeys : List PublicKey
  user : String
  password : Option String := none
  /-- The key that the user may log in with. -/
  authorized : Option PublicKey := none
deriving DecidableEq, Repr

namespace Server

/-- The host key for the first kind asked for that there is one of. -/
def presented? (s : Server) (offered : List String) : Option PublicKey :=
  offered.findSome? fun n => s.hostKeys.find? fun k => Pins.answersTo k n

def admits (s : Server) (a : Login.Attempt) : Bool :=
  s.user = a.user && match a.method with
    | .password p => s.password = some p
    | .publicKey k => s.authorized = some k.publicKey

/-- A handshake without a kind of key in common. -/
def noCommonKey : Failure := .protocol "no common host key algorithm"

def greeting (s : Server) : Preflight.Greeting :=
  match s.presented? Pins.preferred with
  | some k => .shows k
  | none => .breaksOff noCommonKey

/-- What is done on a connection of someone who will make the attempt. -/
def conduct (s : Server) (a : Login.Attempt) (offered : List String) : Session.Conduct :=
  match s.presented? offered with
  | some k => .shows k (.ready (.answers (.ok (s.admits a))))
  | none => .breaksOff noCommonKey

end Server

end SshTunnel

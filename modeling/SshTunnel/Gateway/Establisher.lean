import SshTunnel.Login.Method
import SshTunnel.Trust.Pins

/-!
What it takes to open a session: the gateway, the user and one method to log in, the keys that the gateway
may present, and a time limit.
-/

namespace SshTunnel

structure Establisher where
  host : String
  port : UInt16
  user : String
  login : Login
  pins : Pins
  /-- Time limit in milliseconds. -/
  limit : Nat
deriving DecidableEq, Repr

namespace Establisher

def noUser : Failure := .configuration "gateway user is empty"

/-- With a method that was selected before. -/
def ofLogin (host : String) (port : UInt16) (user : String) (login : Login) (pins : Pins) (limit : Nat) :
    Except Failure Establisher :=
  if user = "" then .error noUser else .ok ⟨host, port, user, login, pins, limit⟩

/-- Selects the method, once the user is known to have a name. -/
def ofCredentials (d : PrivateKey.Decoder) (host : String) (port : UInt16) (c : Credentials) (pins : Pins)
    (limit : Nat) : Except Failure Establisher :=
  if c.user = "" then .error noUser
  else (Login.select d c).bind fun login => ofLogin host port c.user login pins limit

end Establisher

end SshTunnel

import SshTunnel.Gateway.Session
import SshTunnel.Listener.Binding
import SshTunnel.Place
import SshTunnel.Settings.Credentials
import SshTunnel.Trust.Resolution

/-!
What a run meets outside: files, the key library, the terminal, the gateway, and the system's sockets.
-/

namespace SshTunnel

structure World where
  /-- The user's home directory. -/
  home : Option String
  files : String → Place
  /-- How the key library reads private keys. -/
  decoder : PrivateKey.Decoder
  /-- Whether signals can be waited for. -/
  signals : Except SystemError Unit := .ok ()
  /-- What is typed at a question. -/
  typed : Bytes
  /-- Looking up the gateway when its host key is asked for. -/
  lookupFirst : Lookup := .found
  greeting : Preflight.Greeting
  /-- Looking up the gateway when the session is opened. -/
  lookup : Lookup := .found
  /-- What the gateway does in the session, by the kinds of host key that it is asked for. -/
  conduct : List String → Session.Conduct
  system : Listener.System

/-- What happens in a run that others can see. -/
inductive World.Event
  | trust (e : Resolution.Event)
  | session (e : Session.Event)
  | socket (e : Listener.Event)
  /-- A session that was open is closed. -/
  | closed
deriving DecidableEq, Repr

/-- The trust store as a run finds it. -/
def World.trustPlace (w : World) (s : Settings) : Place := w.files (s.trustStorePath w.home)

end SshTunnel

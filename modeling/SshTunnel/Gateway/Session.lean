import SshTunnel.Gateway.Establisher
import SshTunnel.Gateway.Preflight

/-!
Opening a session: the gateway shows a host key, the pins decide about it, and the user logs in once.  The
trace says what the gateway has seen of this.
-/

namespace SshTunnel

namespace Session

/-- What a gateway answers to an attempt to log in. -/
inductive Reply
  | answers (a : Except Failure Bool)
  /-- Says nothing until time is up. -/
  | stalls
deriving Repr

/-- What a gateway does once its host key is accepted. -/
inductive Welcome
  | ready (login : Reply)
  | breaksOff (e : Failure)
  | stalls
deriving Repr

/-- What a gateway does on a connection; it shows a host key before anybody logs in. -/
inductive Conduct
  | shows (key : PublicKey) (next : Welcome)
  | breaksOff (e : Failure)
  | stalls
deriving Repr

inductive Event
  /-- The key shown was looked at. -/
  | checked (key : PublicKey)
  | attempted (a : Login.Attempt)
  /-- A session that did not get through was taken leave of. -/
  | disconnected
deriving DecidableEq, Repr

/-- What opening a session comes to. -/
structure Opening where
  /-- The name of the session. -/
  result : Except Failure String
  trace : List Event

end Session

namespace Establisher

open Session

def label (e : Establisher) : String := e.user ++ "@" ++ e.host ++ ":" ++ toString e.port.toNat

/-- A handshake that fails; a host key that is refused keeps its own failure. -/
def handshakeFailed (e : Establisher) (why : Failure) : Failure :=
  match why with
  | .hostKeyUnresolved m => .hostKeyUnresolved m
  | why => .transportUnreachable ("SSH handshake with " ++ e.host ++ ":" ++ toString e.port.toNat ++
      " failed: " ++ why.text)

def late (e : Establisher) : Failure := tooSlow e.host e.port e.limit

/-- The one attempt to log in. -/
def logIn (e : Establisher) (r : Reply) : Opening :=
  let a : Login.Attempt := ⟨e.user, e.login⟩
  match r with
  | .stalls => ⟨.error e.late, [.attempted a]⟩
  | .answers answer => match Login.conclude a answer with
    | .ok () => ⟨.ok e.label, [.attempted a]⟩
    | .error f => ⟨.error f, [.attempted a, .disconnected]⟩

def welcomed (e : Establisher) : Welcome → Opening
  | .ready r => e.logIn r
  | .breaksOff why => ⟨.error (e.handshakeFailed why), []⟩
  | .stalls => ⟨.error e.late, []⟩

/-- Opens a session with a gateway that can be reached. -/
def connect (e : Establisher) : Conduct → Opening
  | .breaksOff why => ⟨.error (e.handshakeFailed why), []⟩
  | .stalls => ⟨.error e.late, []⟩
  | .shows k next => match e.pins.check e.host e.port k with
    | .error f => ⟨.error (e.handshakeFailed f), [.checked k]⟩
    | .ok () =>
      let o := e.welcomed next
      ⟨o.result, .checked k :: o.trace⟩

/-- The kinds of host key that the gateway is asked for. -/
def offered (e : Establisher) : List String := e.pins.algorithms?.getD Pins.preferred

/-- Opens a session. -/
def establish (e : Establisher) (l : Lookup) (c : Conduct) : Opening :=
  match l.check e.host e.port with
  | .error f => ⟨.error f, []⟩
  | .ok () => e.connect c

end Establisher

end SshTunnel

import SshTunnel.Run.World

/-!
The start of a run.  Settings and credentials come first; then the host key is settled, the session opened,
and last every rule listened for.  Whatever fails ends the start.
-/

namespace SshTunnel

namespace Run

/-- What can go wrong before the network or the trust store is touched: the rules and the method to log in. -/
def prepare (w : World) (s : Settings) : Except Failure (RuleSet × Login) := do
  s.check
  let rules ← s.ruleSet
  let login ← Login.select w.decoder (← s.credentials fun path => (w.files path).read)
  match w.signals with
  | .error e => .error (.system e.text)
  | .ok () => .ok (rules, login)

/-- The keys that the gateway may present, what is then at the trust store's path, and what was done. -/
structure Trusted where
  result : Except Failure Pins
  place : Place
  trace : List Resolution.Event

/-- What the resolution of a host key meets. -/
def resolutionWorld (w : World) (s : Settings) : Resolution.World where
  operator := s.hostKeys.keyFile.map fun path => ⟨path, (w.files path).read⟩
  fetch host port := Preflight.fetch w.lookupFirst w.greeting host port s.limits.connect
  answer _ := some (s.consent.decide w.typed)

def settlePins (w : World) (s : Settings) : Trusted :=
  let place := w.trustPlace s
  if s.hostKeys.acceptAny then ⟨.ok .any, place, []⟩
  else
    let o := Resolution.resolve (resolutionWorld w s) (.ofPlace place) s.gateway.host s.gateway.port
    ⟨o.result.map fun r => .oneOf r.keys, o.store.place, o.trace⟩

/-- A session with every rule listened for. -/
structure Running where
  session : String
  rules : RuleSet
  listeners : List Listener
deriving DecidableEq, Repr

/-- What a start comes to, what is then at the trust store's path, and what was done. -/
structure Start where
  result : Except Failure Running
  place : Place
  trace : List World.Event

/-- Listens for every rule; if that fails the session is closed. -/
def listen (w : World) (rules : RuleSet) (session : String) : Except Failure Running × List World.Event :=
  let b := Listener.bindAll w.system rules
  match b.result with
  | .error f => (.error f, b.trace.map .socket ++ [.closed])
  | .ok ls => (.ok ⟨session, rules, ls⟩, b.trace.map .socket)

/-- Opens the session, then listens. -/
def connect (w : World) (rules : RuleSet) (e : Establisher) : Except Failure Running × List World.Event :=
  let o := e.establish w.lookup (w.conduct e.offered)
  match o.result with
  | .error f => (.error f, o.trace.map .session)
  | .ok session =>
    let (r, trace) := listen w rules session
    (r, o.trace.map .session ++ trace)

def start (w : World) (s : Settings) : Start :=
  match prepare w s with
  | .error f => ⟨.error f, w.trustPlace s, []⟩
  | .ok (rules, login) =>
    let t := settlePins w s
    let e := t.result.bind fun pins =>
      Establisher.ofLogin s.gateway.host s.gateway.port s.gateway.user login pins s.limits.connect
    match e with
    | .error f => ⟨.error f, t.place, t.trace.map .trust⟩
    | .ok e =>
      let (r, trace) := connect w rules e
      ⟨r, t.place, t.trace.map .trust ++ trace⟩

end Run

end SshTunnel

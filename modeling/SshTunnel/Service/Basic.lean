import SshTunnel.Listener.Binding
import SshTunnel.Service.Connection
import SshTunnel.Service.Phase
import SshTunnel.Settings.Basic

/-!
A service: one session with the gateway, an acceptor for each rule, the connections, and a supervisor that
ends it all in order.  They work side by side; a state may be followed by any move that someone can make.
-/

namespace SshTunnel

/-- A request to the session for a channel. -/
structure Dial where
  task : TaskId
  host : String
  port : UInt16
  origin : Endpoint
deriving DecidableEq, Repr

structure Service where
  rules : List Rule
  limits : Limits
  stage : Stage := .idle
  published : List Phase := [.idle]
  /-- Someone wants it to stop, or nobody is left who could. -/
  stopAsked : Bool := false
  /-- The session is open, or was. -/
  hasSession : Bool := false
  sessionClosed : Bool := false
  /-- How often the session was closed from here. -/
  closings : Nat := 0
  listeners : List Listener := []
  /-- One for each rule, once they run. -/
  acceptors : List Acceptor := []
  roster : Roster
  /-- Every connection so far, by the number of its task. -/
  connections : List Connection := []
  /-- What each client has sent so far, by its number. -/
  clientStreams : List Bytes := []
  /-- What has come out of each channel so far, by the task that opened it. -/
  channelStreams : List Bytes := []
  dials : List Dial := []
  /-- The acceptors are to stop. -/
  stopping : Bool := false
  /-- The connections are to close. -/
  forcing : Bool := false

namespace Service

/-- How long each of the three waits of draining lasts at most, in milliseconds: forced connections get
their time for closing and a second more, and aborted ones a moment. -/
def patience (l : Limits) : Drain → Option Nat
  | .waiting => some l.shutdownDeadline
  | .forced => some (l.closeGrace + 1000)
  | .aborted => some 200
  | _ => none

/-- A service that has not been started. -/
def forRules (rules : List Rule) (limits : Limits) : Service :=
  { rules, limits, roster := Roster.forRules rules.length }

def publish (p : Phase) (s : Service) : Service := { s with published := s.published ++ [p] }

def phase (s : Service) : Phase := s.published.getLast?.getD .idle

def setAcceptor (i : Nat) (a : Acceptor) (s : Service) : Service :=
  { s with acceptors := s.acceptors.set i a }

def setConnection (t : TaskId) (c : Connection) (s : Service) : Service :=
  { s with connections := s.connections.set t c }

/-- Once the supervisor is gone, nobody can say that connections may go on. -/
def isForced (s : Service) : Bool := s.forcing || s.stage.outcome?.isSome

def isStopping (s : Service) : Bool := s.stopping || s.stage.outcome?.isSome

/-! ### Starting -/

inductive StartMove
  | authenticate
  /-- The session is open, or could not be opened. -/
  | established (r : Except Failure Unit)
  | bind (system : Listener.System)
  | closeSession
  | giveUp
  | announce

def start (s : Service) (m : StartMove) : Option Service :=
  match s.stage, m with
  | .idle, .authenticate => some ({ s with stage := .authenticating }.publish .authenticating)
  | .authenticating, .established (.ok ()) => some { s with stage := .binding, hasSession := true }
  | .authenticating, .established (.error f) => some ({ s with stage := .failed f }.publish .stopped)
  | .binding, .bind system =>
    match (Listener.bindAll system ⟨s.rules⟩).result with
    | .error f => some { s with stage := .unbound f }
    | .ok ls => some { s with stage := .launching, listeners := ls,
                              acceptors := ls.map fun _ => { cap := s.limits.maxConnections } }
  | .unbound f, .closeSession =>
    some { s with stage := .leaving f, closings := s.closings + 1, sessionClosed := true }
  | .leaving f, .giveUp => some ({ s with stage := .failed f }.publish .stopped)
  | .launching, .announce => some ({ s with stage := .running }.publish .running)
  | _, _ => none

/-! ### Outside -/

inductive OutsideMove
  | askStop
  /-- The one handle on the service is dropped. -/
  | dropHandle
  | loseSession
  /-- A client connects to the listener of a rule. -/
  | connect (rule : Nat) (peer : Endpoint)
  | clientSends (number : Nat) (b : Bytes)
  | channelSends (t : TaskId) (b : Bytes)

/-- Whether there is a handle on the service by now. -/
def isStarted (s : Service) : Bool :=
  match s.stage with
  | .running | .draining .. | .finished _ => true
  | _ => false

def outside (s : Service) : OutsideMove → Option Service
  | .askStop => if s.isStarted then some { s with stopAsked := true } else none
  | .dropHandle => if s.isStarted then some { s with stopAsked := true } else none
  | .loseSession => if s.hasSession then some { s with sessionClosed := true } else none
  | .connect rule peer => do
    let a ← s.acceptors[rule]?
    if a.isOpen then
      let c : Client := ⟨s.clientStreams.length, peer⟩
      some { s.setAcceptor rule { a with backlog := a.backlog ++ [c] } with
        clientStreams := s.clientStreams ++ [[]] }
    else none
  | .clientSends n b => some { s with clientStreams := s.clientStreams.modify n (· ++ b) }
  | .channelSends t b => some { s with channelStreams := s.channelStreams.modify t (· ++ b) }

/-! ### Accepting -/

def accept (s : Service) (i : Nat) (m : Acceptor.Move) : Option Service := do
  let a ← s.acceptors[i]?
  let a ← a.step s.isStopping m
  some (s.setAcceptor i a)

/-- The next step with a client that was accepted: it is put on the roster, its task is started with the
permit, and the task is noted. -/
def enrol (s : Service) (i : Nat) : Option Service := do
  let a ← s.acceptors[i]?
  match a.stage with
  | .holding c =>
    let (id, r) := s.roster.takeId
    some { s.setAcceptor i { a with stage := .numbered c id } with
      roster := r }
  | .numbered c id =>
    some { s.setAcceptor i { a with stage := .entered c id } with
      roster := s.roster.insert ⟨id, i, c.peer, none⟩ }
  | .entered c id =>
    some { s.setAcceptor i { a with stage := .counted c id } with
      roster := s.roster.count i Stats.connected }
  | .counted c id =>
    let new : Connection := { client := c, id, rule := i, permit := a.permit }
    some { s.setAcceptor i { a with stage := .spawned id s.connections.length, permit := false } with
      connections := s.connections ++ [new], channelStreams := s.channelStreams ++ [[]] }
  | .spawned id task =>
    some { s.setAcceptor i { a with stage := .ready } with
      roster := s.roster.attach id task }
  | _ => none

/-! ### Relaying -/

/-- What the two directions of a connection read from: its own client, and its own channel. -/
def source (s : Service) (t : TaskId) (c : Connection) : Way → Bytes
  | .up => s.clientStreams[c.client.number]?.getD []
  | .down => s.channelStreams[t]?.getD []

/-- What a connection adds to the counters of its rule. -/
def countBytes (before after : Connection) (r : Roster) : Roster :=
  let more (w : Way) : Nat := (after.flow w).counted - (before.flow w).counted
  (r.count after.rule (Stats.sentMore (more .up))).count after.rule (Stats.receivedMore (more .down))

/-- A move of the task of a connection. -/
def work (s : Service) (t : TaskId) (m : Connection.Move) : Option Service := do
  let c ← s.connections[t]?
  guard (c.agrees (s.source t c) m)
  let rule ← s.rules[c.rule]?
  let c' ← c.work ⟨rule.remoteAddr, s.limits.dial⟩ s.isForced m
  let dials := match m with
    | .dial => s.dials ++ [⟨t, rule.host, rule.port, c.client.peer⟩]
    | _ => s.dials
  some { s.setConnection t c' with dials, roster := countBytes c c' s.roster }

/-- A connection lets go of its entry or its permit. -/
def letGo (s : Service) (t : TaskId) (m : Connection.Move) : Option Service := do
  let c ← s.connections[t]?
  let c' ← c.letGo m
  let s' := s.setConnection t c'
  match m with
  | .remove => some { s' with roster := s.roster.remove c.id }
  | .countOut => some { s' with roster := s.roster.count c.rule Stats.disconnected }
  | .returnPermit => do
    let a ← s.acceptors[c.rule]?
    some (s'.setAcceptor c.rule { a with free := a.free + 1 })
  | _ => none

/-! ### Stopping -/

inductive StopMove
  /-- Draining begins, because the session is lost or because someone asked for it. -/
  | drain (lost : Bool)
  | stopAccepting
  | join
  /-- Nobody is on the roster at a look. -/
  | idle
  /-- Somebody is, at the last look before time is up. -/
  | overdue
  | force
  | abort
  | closeSession
  | announce
  | leave

/-- Tells the tasks that are known on the roster to end. -/
def abortAll (s : Service) : Service :=
  { s with connections := s.connections.mapIdx fun t c =>
      if t ∈ s.roster.tasks then { c with aborted := true } else c }

/-- Goes on after a wait, if the roster is empty or not, as supposed. -/
def goOn (s : Service) (idle : Bool) (lost : Bool) (next : Drain) : Option Service :=
  if s.roster.entries.isEmpty = idle then some { s with stage := .draining lost next } else none

/-- The supervisor's moves, in their order. -/
def drain (s : Service) (lost : Bool) (d : Drain) (m : StopMove) : Option Service :=
  match d, m with
  | .announced, .stopAccepting => some { s with stage := .draining lost .joining, stopping := true }
  | .joining, .join =>
    if s.acceptors.any Acceptor.isOpen then none else some { s with stage := .draining lost .waiting }
  | .waiting, .idle => s.goOn true lost .parting
  | .waiting, .overdue => s.goOn false lost .overdue
  | .overdue, .force => some { s with stage := .draining lost .forced, forcing := true }
  | .forced, .idle => s.goOn true lost .parting
  | .forced, .overdue => s.goOn false lost .stuck
  | .stuck, .abort => some { s.abortAll with stage := .draining lost .aborted }
  | .aborted, .idle => s.goOn true lost .parting
  | .aborted, .overdue => s.goOn false lost .parting
  | .parting, .closeSession =>
    some { s with stage := .draining lost .closed, closings := s.closings + 1, sessionClosed := true }
  | .closed, .announce => some ({ s with stage := .draining lost .stopped }.publish .stopped)
  | .stopped, .leave => some { s with stage := .finished lost }
  | _, _ => none

def stop (s : Service) (m : StopMove) : Option Service :=
  match s.stage, m with
  | .running, .drain lost =>
    if lost = true ∧ s.sessionClosed ∨ lost = false ∧ s.stopAsked then
      some ({ s with stage := .draining lost .announced }.publish .draining)
    else none
  | .draining lost d, m => s.drain lost d m
  | _, _ => none

/-! ### All together -/

inductive Move
  | start (m : StartMove)
  | outside (m : OutsideMove)
  | accept (rule : Nat) (m : Acceptor.Move)
  | enrol (rule : Nat)
  | work (t : TaskId) (m : Connection.Move)
  | letGo (t : TaskId) (m : Connection.Move)
  | stop (m : StopMove)

/-- One move of someone who can make it. -/
def step (s : Service) : Move → Option Service
  | .start m => s.start m
  | .outside m => s.outside m
  | .accept i m => s.accept i m
  | .enrol i => s.enrol i
  | .work t m => s.work t m
  | .letGo t m => s.letGo t m
  | .stop m => s.stop m

/-- The moves in a row. -/
def run (s : Service) : List Move → Option Service
  | [] => some s
  | m :: ms => (s.step m).bind fun s' => s'.run ms

end Service

end SshTunnel

import SshTunnel.Endpoint

/-!
Accepting the clients of one rule.  Under a cap a permit is taken before a client is; it goes along with
the client, or back if there is none.  A request to stop competes with whatever else is ready.
-/

namespace SshTunnel

/-- A client on its way in. -/
structure Client where
  number : Nat
  peer : Endpoint
deriving DecidableEq, Repr

inductive Acceptor.Stage
  | starting
  /-- In need of a permit, if there is a cap. -/
  | ready
  | listening
  /-- A client was taken from the listener. -/
  | holding (c : Client)
  /-- Its id is taken, -/
  | numbered (c : Client) (id : UInt64)
  /-- its entry is on the roster, -/
  | entered (c : Client) (id : UInt64)
  /-- it is counted, -/
  | counted (c : Client) (id : UInt64)
  /-- its task runs, and is about to be noted on the roster. -/
  | spawned (id : UInt64) (task : Nat)
  /-- Pausing after an error. -/
  | resting
  | ended
  /-- The cap was more than permits can be made for. -/
  | broken
deriving DecidableEq, Repr

structure Acceptor where
  cap : Option Nat
  stage : Acceptor.Stage := .starting
  /-- Permits that are free. -/
  free : Nat := 0
  /-- Whether it has a permit in hand. -/
  permit : Bool := false
  /-- Clients that are connected and not accepted yet. -/
  backlog : List Client := []
deriving DecidableEq, Repr

namespace Acceptor

/-- The most permits that can be made. -/
def maxPermits : Nat := Nat.pow 2 61 - 1

/-- Whether the listener is open. -/
def isOpen (a : Acceptor) : Bool := a.stage ≠ .ended && a.stage ≠ .broken

/-- Puts the permit in hand back. -/
def putBack (a : Acceptor) : Acceptor :=
  { a with free := a.free + (if a.permit then 1 else 0), permit := false }

/-- Closes the listener; clients that wait there are turned away. -/
def stop (a : Acceptor) : Acceptor := { a.putBack with stage := .ended, backlog := [] }

inductive Move
  | start
  | takePermit
  | accept
  | acceptFails
  /-- The pause after an error is over. -/
  | resume
  | quit
deriving DecidableEq, Repr

/-- Makes the permits. -/
def start (a : Acceptor) : Acceptor :=
  match a.cap with
  | none => { a with stage := .ready }
  | some n => if maxPermits < n then { a with stage := .broken, backlog := [] }
    else { a with stage := .ready, free := n }

def takePermit (a : Acceptor) : Option Acceptor :=
  match a.cap, a.free with
  | none, _ => some { a with stage := .listening }
  | some _, 0 => none
  | some _, n + 1 => some { a with stage := .listening, free := n, permit := true }

/-- One move; `stopping` says whether to stop has been asked for. -/
def step (stopping : Bool) (a : Acceptor) (m : Move) : Option Acceptor :=
  match a.stage, m with
  | .starting, .start => some a.start
  | .ready, .takePermit => a.takePermit
  | .ready, .quit => if stopping ∧ a.cap.isSome then some a.stop else none
  | .listening, .accept => match a.backlog with
    | [] => none
    | c :: cs => some { a with stage := .holding c, backlog := cs }
  | .listening, .acceptFails => some { a with stage := .resting }
  | .listening, .quit => if stopping then some a.stop else none
  | .resting, .resume => some { a.putBack with stage := .ready }
  | .resting, .quit => if stopping then some a.stop else none
  | _, _ => none

end Acceptor

end SshTunnel

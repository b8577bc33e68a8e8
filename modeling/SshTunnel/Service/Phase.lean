import SshTunnel.Failure

/-!
The life of a service: what it publishes about itself, and the finer stages that it goes through.
-/

namespace SshTunnel

inductive Phase
  | idle
  | authenticating
  | running
  | draining
  | stopped
deriving DecidableEq, Repr

def Phase.text : Phase → String
  | idle => "idle"
  | authenticating => "authenticating"
  | running => "running"
  | draining => "draining"
  | stopped => "stopped"

/-- How far draining has come. -/
inductive Drain
  /-- The phase is published, nobody has been told yet. -/
  | announced
  /-- The acceptors have been told to stop. -/
  | joining
  /-- Waiting for the connections to end, for as long as the deadline allows. -/
  | waiting
  /-- They did not: everything is about to be told to close. -/
  | overdue
  /-- Waiting once more. -/
  | forced
  /-- What is left is about to be aborted. -/
  | stuck
  /-- Waiting for the last time. -/
  | aborted
  /-- The session is about to be closed. -/
  | parting
  | closed
  /-- The end is published. -/
  | stopped
deriving DecidableEq, Repr

inductive Stage
  | idle
  | authenticating
  | binding
  /-- Not every rule could be listened for; the session is still open. -/
  | unbound (f : Failure)
  /-- The session is closed again. -/
  | leaving (f : Failure)
  /-- The start has failed. -/
  | failed (f : Failure)
  /-- Clients are accepted, which is not published yet. -/
  | launching
  | running
  /-- Draining, because the session was lost or because it was asked to stop. -/
  | draining (lost : Bool) (d : Drain)
  | finished (lost : Bool)
deriving DecidableEq, Repr

/-- What is said of a service that was running and is over. -/
def Stage.outcome? : Stage → Option (Except Failure Unit)
  | finished true => some (.error (.transportFailure "gateway connection closed"))
  | finished false => some (.ok ())
  | _ => none

/-- The failure of a start. -/
def Stage.startFailure? : Stage → Option Failure
  | failed f => some f
  | _ => none

end SshTunnel

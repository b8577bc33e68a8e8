import SshTunnel.Service.Basic

/-!
The one handle on a service that was started.  Whoever has it may ask the service to stop, as often as they
like, and may give it away for what the service comes to, at once or after a request that they wait for.
-/

namespace SshTunnel

/-- What is done with the handle. -/
inductive Handle
  | kept
  /-- Waiting until the service is over. -/
  | waiting
  /-- Waiting for that, or for a request to stop. -/
  | watching
  /-- The wait is over, with this result. -/
  | returned (r : Except Failure Unit)
  | dropped

/-- A service and the handle on it. -/
structure Owned where
  service : Service
  handle : Handle := .kept

namespace Owned

def forRules (rules : List Rule) (limits : Limits) : Owned := { service := Service.forRules rules limits }

inductive Move
  /-- A move of the service that does not need the handle. -/
  | inside (m : Service.Move)
  /-- Asks without waiting; that it has stopped is seen by what it publishes. -/
  | askStop
  | wait
  | watch
  /-- The request that is watched for. -/
  | request
  /-- Takes what the service came to. -/
  | collect
  | drop

/-- Whether a move is made by means of the handle. -/
def needsHandle : Service.Move → Bool
  | .outside .askStop | .outside .dropHandle => true
  | _ => false

/-- A move of the service, after which the handle is as given. -/
def withService (o : Owned) (m : Service.Move) (handle : Handle) : Option Owned :=
  (o.service.step m).map fun s => ⟨s, handle⟩

def step (o : Owned) (m : Move) : Option Owned :=
  match m, o.handle with
  | .inside m, handle => if needsHandle m then none else o.withService m handle
  | .askStop, .kept => o.withService (.outside .askStop) .kept
  | .wait, .kept => if o.service.isStarted then some { o with handle := .waiting } else none
  | .watch, .kept => if o.service.isStarted then some { o with handle := .watching } else none
  | .request, .watching => o.withService (.outside .askStop) .waiting
  | .collect, .waiting | .collect, .watching =>
    o.service.stage.outcome?.map fun r => { o with handle := .returned r }
  | .drop, .kept | .drop, .waiting | .drop, .watching => o.withService (.outside .dropHandle) .dropped
  | _, _ => none

/-- The moves in a row. -/
def run (o : Owned) : List Move → Option Owned
  | [] => some o
  | m :: ms => (o.step m).bind fun o' => o'.run ms

end Owned

end SshTunnel

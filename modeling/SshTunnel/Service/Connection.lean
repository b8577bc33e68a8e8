import SshTunnel.Relay.Forwarder
import SshTunnel.Roster.Basic
import SshTunnel.Service.Acceptor

/-!
An accepted client and the task that relays it.  When the task is over, by itself or because it was
aborted, the connection leaves the roster and then its permit goes back.
-/

namespace SshTunnel

/-- How far a connection has left the roster. -/
inductive Guard
  | held
  /-- The entry is out, the counters do not show it yet. -/
  | removed
  | released
deriving DecidableEq, Repr

structure Connection where
  client : Client
  id : UInt64
  rule : Nat
  /-- What its task does, once it has run at all. -/
  forwarder : Option Forwarder := none
  /-- The task is over. -/
  done : Bool := false
  /-- The two directions of a task that is over have been stopped. -/
  halted : Bool := false
  /-- The task has been told to end at once. -/
  aborted : Bool := false
  guard : Guard := .held
  /-- Whether it holds a permit. -/
  permit : Bool

namespace Connection

inductive Move
  /-- The task begins to open a channel. -/
  | dial
  /-- Everything was told to close before the task ran. -/
  | skip
  | forward (m : Forwarder.Move)
  /-- The forwarder is through. -/
  | finish
  /-- A task that was told to end does. -/
  | cancel
  | halt
  | remove
  | countOut
  | returnPermit

/-- Whether the task still works. -/
def isLive (c : Connection) : Bool := !c.done

/-- A task that is over relays on only until its directions are stopped. -/
def mayForward (c : Connection) : Forwarder.Move → Bool
  | .relay (.flow ..) => !c.halted
  | _ => !c.done

/-- The moves of the task itself. -/
def work (t : Forwarder.Target) (force : Bool) (c : Connection) (m : Move) : Option Connection :=
  match m, c.forwarder with
  | .dial, none => if c.done then none else some { c with forwarder := some .dialing }
  | .skip, none =>
    if c.done ∨ !force then none else some { c with forwarder := some (.ended none (.ok ())) }
  | .forward m, some f =>
    if c.mayForward m then (f.step t force m).map fun f => { c with forwarder := some f } else none
  | .finish, some (.ended ..) => if c.done then none else some { c with done := true }
  | .cancel, _ => if c.aborted ∧ !c.done then some { c with done := true } else none
  | .halt, _ => if c.done then some { c with halted := true } else none
  | _, _ => none

/-- The moves by which it lets go of its entry and its permit.  A task that never ran lets go of the
permit first, any other of the entry. -/
def letGo (c : Connection) (m : Move) : Option Connection :=
  match m with
  | .remove =>
    if c.done ∧ c.guard = .held ∧ (c.forwarder.isSome ∨ !c.permit) then some { c with guard := .removed }
    else none
  | .countOut => if c.guard = .removed then some { c with guard := .released } else none
  | .returnPermit =>
    if c.done ∧ c.permit ∧ (c.forwarder.isNone ∨ c.guard = .released) then some { c with permit := false }
    else none
  | _ => none

/-- A direction, or a fresh one while there is none. -/
def flow (c : Connection) (w : Way) : Flow := ((c.forwarder.bind Forwarder.bridge?).map fun b => b.flow w).getD {}

/-- Whether a move of the task agrees with what its sources hold: bytes are read in their order, and the
end is seen behind the last of them. -/
def agrees (c : Connection) (source : Way → Bytes) : Move → Bool
  | .forward (.relay (.flow w (.read chunk))) => chunk.isPrefixOf ((source w).drop (c.flow w).taken.length)
  | .forward (.relay (.flow w .readEnd)) => (c.flow w).taken.length = (source w).length
  | _ => true

end Connection

end SshTunnel

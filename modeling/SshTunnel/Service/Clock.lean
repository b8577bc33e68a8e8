import SshTunnel.Roster.Idle
import SshTunnel.Service.Schedule

/-!
A service with a clock.  It is noted when each wait begins; a wait that has lasted as long as it may gives
rise to a move.
-/

namespace SshTunnel.Service

/-- Something that takes a limited time. -/
inductive Wait
  | dial (t : TaskId)
  /-- A direction after the other one has ended. -/
  | grace (t : TaskId)
  | shutdown (t : TaskId) (w : Way)
  /-- An acceptor after an error. -/
  | rest (rule : Nat)
  | drain (d : Drain)
deriving DecidableEq, Repr

def limitOf (l : Limits) : Wait → Nat
  | .dial _ => l.dial
  | .grace _ | .shutdown .. => l.closeGrace
  | .rest _ => l.acceptBackoff
  | .drain d => (patience l d).getD 0

/-- The move at the end of a wait.  Draining is looked at every so often before that. -/
def moveAfter : Wait → Move
  | .dial t => .work t (.forward .tooLate)
  | .grace t => .work t (.forward (.relay .graceOver))
  | .shutdown t w => .work t (.forward (.relay (.flow w .shut)))
  | .rest i => .accept i .resume
  | .drain _ => .stop .overdue

/-- The waits of a task. -/
def taskWaits (t : TaskId) (c : Connection) : List Wait :=
  let closing (w : Way) : List Wait := match (c.flow w).stage with
    | .closing _ => [.shutdown t w]
    | _ => []
  match c.forwarder with
  | some .dialing => [.dial t]
  | some (.relaying b) => (if b.first.isSome then [.grace t] else []) ++ closing .up ++ closing .down
  | _ => []

/-- The waits that are going on. -/
def waits (s : Service) : List Wait :=
  let rests := s.acceptors.mapIdx fun i a => if a.stage = .resting then [.rest i] else []
  let drains : List Wait := match s.stage with
    | .draining _ d => if (patience s.limits d).isSome then [.drain d] else []
    | _ => []
  rests.flatten ++ (s.connections.mapIdx taskWaits).flatten ++ drains

end SshTunnel.Service

namespace SshTunnel

/-- A service, the time in milliseconds, and when each wait that is going on began. -/
structure Timed where
  service : Service
  now : Nat := 0
  began : List (Service.Wait × Nat) := []

namespace Timed

/-- Notes the waits that begin now, and forgets those that are over. -/
def note (m : Timed) : Timed :=
  { m with began := m.service.waits.map fun w => (w, (m.began.lookup w).getD m.now) }

def step (m : Timed) (x : Service.Move) : Option Timed :=
  (m.service.step x).map fun s => { m with service := s }.note

/-- Whether it is time for a look at the roster. -/
def isLook (m : Timed) (start : Nat) : Bool := (m.now - start) % Roster.pause = 0

/-- The moves that a wait allows now. -/
def movesOf (m : Timed) (w : Service.Wait) (start : Nat) : List Service.Move :=
  let isUp : Bool := start + Service.limitOf m.service.limits w ≤ m.now
  let last := if isUp then [Service.moveAfter w] else []
  match w with
  | .drain _ => if m.isLook start then .stop .idle :: last else []
  | _ => last

/-- The moves for which it is time. -/
def moves (m : Timed) : List Service.Move := m.began.flatMap fun (w, start) => m.movesOf w start

/-- A millisecond goes by. -/
def tick (m : Timed) : Timed := { m with now := m.now + 1 }

end Timed

end SshTunnel

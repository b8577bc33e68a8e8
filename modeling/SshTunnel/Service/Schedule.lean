import SshTunnel.Service.Basic

/-!
A schedule for a service: the moves that its own parts would make next, the preferred ones first.  What
comes from clients, channels and clocks is left to whoever runs it.
-/

namespace SshTunnel.Service

/-- An acceptor stops when it can, and otherwise takes one client after the other. -/
def acceptorMoves (i : Nat) : List Move :=
  [.accept i .start, .accept i .quit, .enrol i, .accept i .takePermit, .accept i .accept]

/-- What is left for a task that needs nothing from outside. -/
def taskMoves (t : TaskId) (c : Connection) : List Move :=
  let relay (m : Bridge.Move) : Move := .work t (.forward (.relay m))
  let ending : List Move := if c.halted then [] else [.work t .halt]
  [.work t .cancel, .work t .skip, .work t .dial, .work t (.forward .abandon), relay (.notice .up),
    relay (.notice .down), .work t (.forward .finish), .work t .finish] ++ ending ++
    [.letGo t .remove, .letGo t .countOut, .letGo t .returnPermit]

/-- The supervisor's next moves, but for its waits. -/
def supervisorMoves : List Move :=
  [.stop (.drain false), .stop (.drain true), .stop .stopAccepting, .stop .join, .stop .force, .stop .abort,
    .stop .closeSession, .stop .announce, .stop .leave]

def ownMoves (s : Service) : List Move :=
  (List.range s.acceptors.length).flatMap acceptorMoves ++ (s.connections.mapIdx taskMoves).flatten ++
    supervisorMoves

end SshTunnel.Service

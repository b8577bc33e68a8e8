import SshTunnel.Roster.Basic

/-!
A roster that many use at once.  A call is a row of steps, and the steps of other calls may come between
any two of them.  The state says which calls are halfway through.
-/

namespace SshTunnel.Roster

/-- A connection whose counters lag behind its entry. -/
structure Pending where
  id : UInt64
  rule : Nat
deriving DecidableEq, Repr

structure Shared where
  roster : Roster
  /-- Registering: the id is taken, the entry is not in yet. -/
  numbered : List (Pending × Endpoint) := []
  /-- Registering: the entry is in, the counters do not show it yet. -/
  entered : List Pending := []
  /-- Registered: someone holds the guard of this id. -/
  guards : List UInt64 := []
  /-- Released: the entry is out, the counters do not show it yet. -/
  removed : List Pending := []
  /-- Every registration begun so far, the latest first. -/
  begun : List Pending := []
  /-- The ids whose guards were dropped, the latest first. -/
  dropped : List UInt64 := []
deriving DecidableEq, Repr

/-- A step of some call. -/
inductive Move
  | takeId (rule : Nat) (peer : Endpoint)
  | enter (id : UInt64)
  /-- Ends the registration: from now on there is a guard. -/
  | countIn (id : UInt64)
  /-- A guard is dropped. -/
  | drop (id : UInt64)
  | countOut (id : UInt64)
  | attach (id : UInt64) (task : TaskId)
  /-- Looks at the roster, or asks its tasks to end. -/
  | look
deriving DecidableEq, Repr

namespace Shared

def forRules (n : Nat) : Shared := { roster := Roster.forRules n }

/-- One step, where it is some call's turn to make it. -/
def step (s : Shared) : Move → Option Shared
  | .takeId rule peer =>
    let (id, r) := s.roster.takeId
    some { s with roster := r, numbered := (⟨id, rule⟩, peer) :: s.numbered,
                  begun := ⟨id, rule⟩ :: s.begun }
  | .enter id => do
    let (p, peer) ← s.numbered.find? fun p => p.1.id = id
    some { s with roster := s.roster.insert ⟨id, p.rule, peer, none⟩,
                  numbered := s.numbered.erase (p, peer), entered := p :: s.entered }
  | .countIn id => do
    let p ← s.entered.find? fun p => p.id = id
    some { s with roster := s.roster.count p.rule Stats.connected, entered := s.entered.erase p,
                  guards := id :: s.guards }
  | .drop id =>
    if id ∈ s.guards then
      some { s with roster := s.roster.remove id, guards := s.guards.erase id, dropped := id :: s.dropped,
                    removed := ((s.roster.entry? id).map fun e => ⟨id, e.rule⟩).toList ++ s.removed }
    else none
  | .countOut id => do
    let p ← s.removed.find? fun p => p.id = id
    some { s with roster := s.roster.count p.rule Stats.disconnected, removed := s.removed.erase p }
  | .attach id task => some { s with roster := s.roster.attach id task }
  | .look => some s

/-- The steps in a row. -/
def run (s : Shared) : List Move → Option Shared
  | [] => some s
  | m :: ms => (s.step m).bind fun s' => s'.run ms

end Shared

end SshTunnel.Roster

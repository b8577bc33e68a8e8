import SshTunnel.Relay.Flow

/-!
The two directions of one connection.  When one has ended the other gets some time to end by itself; then
the pair is told to close.
-/

namespace SshTunnel

/-- Up is from the client to the channel, down the other way. -/
inductive Way
  | up
  | down
deriving DecidableEq, Repr

def Way.other : Way → Way
  | up => down
  | down => up

structure Bridge where
  up : Flow := {}
  down : Flow := {}
  /-- The direction that was seen to end first. -/
  first : Option Way := none
  /-- The pair has been told to close. -/
  closed : Bool := false
  /-- How often that had an effect. -/
  closings : Nat := 0
deriving DecidableEq, Repr

namespace Bridge

def flow (b : Bridge) : Way → Flow
  | .up => b.up
  | .down => b.down

def setFlow (b : Bridge) (w : Way) (f : Flow) : Bridge :=
  match w with
  | .up => { b with up := f }
  | .down => { b with down := f }

/-- Tells the pair to close; once is enough. -/
def close (b : Bridge) : Bridge :=
  { b with closed := true, closings := b.closings + if b.closed then 0 else 1 }

inductive Move
  | flow (w : Way) (m : Flow.Move)
  /-- A direction is seen to have ended, while the other was not. -/
  | notice (w : Way)
  /-- The time of the other direction is up. -/
  | graceOver
deriving DecidableEq, Repr

/-- A direction is cut only when its pair, or everything, is told to close. -/
def mayMove (b : Bridge) (force : Bool) (m : Flow.Move) : Bool := m ≠ .cut || b.closed || force

def step (force : Bool) (b : Bridge) : Move → Option Bridge
  | .flow w m => if b.mayMove force m then ((b.flow w).step m).map (b.setFlow w) else none
  | .notice w =>
    if b.first = none ∧ (b.flow w).isOver then some { b with first := some w } else none
  | .graceOver => match b.first with
    | none => none
    | some w => if b.closed ∨ (b.flow w.other).isOver then none else some b.close

/-- The error of the whole, once both directions have ended: of the first one before the other's. -/
def outcome? (b : Bridge) : Option (Option String) := do
  let w ← b.first
  let e ← (b.flow w).outcome?
  let e' ← (b.flow w.other).outcome?
  return e.or e'

end Bridge

end SshTunnel

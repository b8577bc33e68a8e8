import SshTunnel.Bytes.Basic

/-!
One direction of a relay: bytes are read from a source and written to a sink, a chunk at a time, until the
source ends, something fails, or the direction is told to close.  Then the sink is shut down once.
-/

namespace SshTunnel

/-- What a direction is at. -/
inductive Flow.Stage
  | reading
  /-- Writing a chunk of some size, of which `rest` is still to go. -/
  | writing (rest : Bytes) (size : Nat)
  /-- Shutting the sink down, after an error or without one. -/
  | closing (error : Option String)
  | ended (error : Option String)
deriving DecidableEq, Repr

structure Flow where
  /-- Bytes read so far. -/
  taken : Bytes := []
  /-- Bytes that the sink has accepted so far. -/
  delivered : Bytes := []
  /-- Size of the chunks written completely. -/
  counted : Nat := 0
  /-- How much had been delivered each time that the sink was asked to shut down. -/
  shutdowns : List Nat := []
  stage : Flow.Stage := .reading
deriving DecidableEq, Repr

namespace Flow

/-- The most bytes read at once. -/
def chunkSize : Nat := 32768

/-- What comes from the source, the sink, or a signal. -/
inductive Move
  | read (chunk : Bytes)
  | readEnd
  | readFails (e : String)
  /-- The sink accepts some bytes; when it accepts none it is broken. -/
  | accept (n : Nat)
  | writeFails (e : String)
  /-- A signal to close takes effect. -/
  | cut
  /-- The sink is shut down, or fails to, or takes too long. -/
  | shut
deriving DecidableEq, Repr

/-- Stops relaying and asks the sink to shut down. -/
def close (error : Option String) (f : Flow) : Flow :=
  { f with shutdowns := f.shutdowns ++ [f.delivered.length], stage := .closing error }

/-- The sink accepts `n` bytes of those still to go. -/
def deliver (n : Nat) (rest : Bytes) (size : Nat) (f : Flow) : Flow :=
  { f with
    delivered := f.delivered ++ rest.take n
    counted := if n = rest.length then f.counted + size else f.counted
    stage := if n = rest.length then .reading else .writing (rest.drop n) size }

def step (f : Flow) (m : Move) : Option Flow :=
  match f.stage, m with
  | .reading, .read chunk =>
    if chunk = [] ∨ chunkSize < chunk.length then none
    else some { f with taken := f.taken ++ chunk, stage := .writing chunk chunk.length }
  | .reading, .readEnd => some (f.close none)
  | .reading, .readFails e => some (f.close (some e))
  | .reading, .cut => some (f.close none)
  | .writing rest size, .accept n =>
    if n = 0 then some (f.close (some "write zero"))
    else if n ≤ rest.length then some (f.deliver n rest size)
    else none
  | .writing .., .writeFails e => some (f.close (some e))
  | .writing .., .cut => some (f.close none)
  | .closing error, .shut => some { f with stage := .ended error }
  | _, _ => none

/-- The moves in a row. -/
def run (f : Flow) : List Move → Option Flow
  | [] => some f
  | m :: ms => (f.step m).bind fun f' => f'.run ms

/-- The bytes that a move reads. -/
def Move.chunk : Move → Bytes
  | read chunk => chunk
  | _ => []

/-- The outcome of a direction that has ended. -/
def outcome? (f : Flow) : Option (Option String) :=
  match f.stage with
  | .ended error => some error
  | _ => none

def isOver (f : Flow) : Bool := f.outcome?.isSome

end Flow

end SshTunnel

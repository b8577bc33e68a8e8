import SshTunnel.Decimal.Shortest
import SshTunnel.Failure
import SshTunnel.Relay.Bridge

/-!
Relaying one client: a channel is opened within a time limit, then the two directions run until both have
ended.  Everything may be told to close at any time.
-/

namespace SshTunnel

inductive Forwarder
  /-- The channel is being opened. -/
  | dialing
  | relaying (b : Bridge)
  /-- Over, after relaying or without. -/
  | ended (b : Option Bridge) (result : Except Failure Unit)

namespace Forwarder

/-- What a forwarder is given: the address behind the channel as text, and the time limit for opening it
in milliseconds. -/
structure Target where
  address : String
  limit : Nat
deriving DecidableEq, Repr

inductive Move
  | opened
  | refused (e : Failure)
  /-- The time for opening is up. -/
  | tooLate
  /-- Everything is told to close before the channel is open. -/
  | abandon
  | relay (m : Bridge.Move)
  /-- Both directions have been seen to end. -/
  | finish
deriving DecidableEq, Repr

def late (t : Target) : Failure :=
  .timedOut ("channel to " ++ t.address ++ " not opened within " ++ Decimal.seconds t.limit ++ "s")

/-- The result for an I/O error, or for none. -/
def resultOf : Option String → Except Failure Unit
  | none => .ok ()
  | some e => .error (.system e)

def step (t : Target) (force : Bool) (f : Forwarder) (m : Move) : Option Forwarder :=
  match f, m with
  | dialing, .opened => some (relaying {})
  | dialing, .refused e => some (ended none (.error e))
  | dialing, .tooLate => some (ended none (.error (late t)))
  | dialing, .abandon => if force then some (ended none (.ok ())) else none
  | relaying b, .relay m => (b.step force m).map relaying
  | relaying b, .finish => b.outcome?.map fun e => ended (some b.close) (resultOf e)
  | _, _ => none

/-- The moves in a row, each with whether everything is told to close by then. -/
def run (t : Target) (f : Forwarder) : List (Bool × Move) → Option Forwarder
  | [] => some f
  | (force, m) :: ms => (f.step t force m).bind fun f' => f'.run t ms

/-- The two directions, if there are any. -/
def bridge? : Forwarder → Option Bridge
  | dialing => none
  | relaying b => some b
  | ended b _ => b

end Forwarder

end SshTunnel

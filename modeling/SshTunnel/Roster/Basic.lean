import SshTunnel.Endpoint

/-!
The roster of live connections.  Registering a connection gives it a fresh id; it stays on the roster until
it is released, and the counters of its rule follow.  Both are composed of smaller steps, since the entries
and the counters are guarded separately and others may come in between.
-/

namespace SshTunnel

/-- Counters of one rule. -/
structure Stats where
  /-- Connections so far. -/
  connections : UInt64 := 0
  /-- Connections now. -/
  active : UInt64 := 0
  /-- Bytes from clients. -/
  sent : UInt64 := 0
  /-- Bytes to clients. -/
  received : UInt64 := 0
deriving DecidableEq, Repr

namespace Stats

def connected (s : Stats) : Stats := { s with connections := s.connections + 1, active := s.active + 1 }

/-- One connection less, but never less than none. -/
def disconnected (s : Stats) : Stats := { s with active := if s.active = 0 then 0 else s.active - 1 }

def sentMore (n : Nat) (s : Stats) : Stats := { s with sent := s.sent + UInt64.ofNat n }

def receivedMore (n : Nat) (s : Stats) : Stats := { s with received := s.received + UInt64.ofNat n }

end Stats

/-- The number of a task that can be aborted. -/
abbrev TaskId := Nat

/-- A live connection. -/
structure Roster.Entry where
  id : UInt64
  /-- Position of the rule that it came in by. -/
  rule : Nat
  /-- The client's end. -/
  peer : Endpoint
  /-- The task that relays it, once that is known. -/
  task : Option TaskId := none
deriving DecidableEq, Repr

structure Roster where
  nextId : UInt64 := 1
  entries : List Roster.Entry := []
  /-- One for each rule. -/
  stats : List Stats
deriving DecidableEq, Repr

namespace Roster

/-- The empty roster for a number of rules. -/
def forRules (n : Nat) : Roster := { stats := List.replicate n {} }

/-! ### Reading -/

def entry? (r : Roster) (id : UInt64) : Option Entry := r.entries.find? fun e => e.id = id

def active (r : Roster) : Nat := r.entries.length

def activeFor (r : Roster) (rule : Nat) : Nat := r.entries.countP fun e => e.rule = rule

/-- Counters of a rule; a number beyond the rules has none. -/
def stats? (r : Roster) (rule : Nat) : Option Stats := r.stats[rule]?

/-- The tasks that are known, one for each entry that has one. -/
def tasks (r : Roster) : List TaskId := r.entries.filterMap Entry.task

/-! ### Steps -/

def takeId (r : Roster) : UInt64 × Roster := (r.nextId, { r with nextId := r.nextId + 1 })

/-- Puts an entry in, in place of any other with its id. -/
def insert (e : Entry) (r : Roster) : Roster :=
  { r with entries := r.entries.filter (fun o => o.id ≠ e.id) ++ [e] }

def remove (id : UInt64) (r : Roster) : Roster := { r with entries := r.entries.filter fun e => e.id ≠ id }

/-- Changes the counters of a rule, if it has any. -/
def count (rule : Nat) (f : Stats → Stats) (r : Roster) : Roster :=
  { r with stats := r.stats.modify rule f }

/-- Notes the task of a connection; one that is gone is not brought back. -/
def attach (id : UInt64) (task : TaskId) (r : Roster) : Roster :=
  { r with entries := r.entries.map fun e => if e.id = id then { e with task := some task } else e }

/-! ### A connection comes and goes -/

def register (rule : Nat) (peer : Endpoint) (r : Roster) : UInt64 × Roster :=
  let (id, r) := r.takeId
  (id, (r.insert ⟨id, rule, peer, none⟩).count rule Stats.connected)

/-- Takes a connection off the roster; one that is gone stays so. -/
def release (id : UInt64) (r : Roster) : Roster :=
  match r.entry? id with
  | none => r
  | some e => (r.remove id).count e.rule Stats.disconnected

end Roster

end SshTunnel

import SshTunnel.Trust.Store

/-!
Adding to the trust store step by step.  The file comes first: it is looked at, opened and written; only then
is the entry kept in memory.  A step that fails leaves what was done before it, so that the order of the steps
decides what a failed attempt leaves behind.
-/

namespace SshTunnel.TrustStore

/-- Steps that may fail halfway, after some of them have changed the store. -/
abbrev Saving (α : Type) := EStateM Failure TrustStore α

namespace Saving

/-- The last line of the file has no end yet. -/
def isUnfinished : Place → Bool
  | .file c => c ≠ [] ∧ c.getLast? ≠ some 10
  | .absent | .unusable _ => false

/-- Makes the directories on the way and opens the file for appending; a missing file is made.  The system may
refuse for reasons of its own. -/
def openFile (refusal : Option SystemError) : Saving Unit := do
  match refusal, (← get).place with
  | some why, _ | none, .unusable why => throw (.system why.text)
  | none, .absent => modify fun s => { s with place := .file [] }
  | none, .file _ => return

/-- Writes at the end of the file that was opened. -/
def write (b : Bytes) : Saving Unit := modify fun s =>
  match s.place with
  | .file c => { s with place := .file (c ++ b) }
  | .absent | .unusable _ => s

def appendLine (refusal : Option SystemError) (line : String) : Saving Unit := do
  let unfinished := isUnfinished (← get).place
  openFile refusal
  if unfinished then write [10]
  write (Text.encode line ++ [10])

def remember (e : Entry) : Saving Unit := modify fun s => { s with entries := s.entries ++ [e] }

end Saving

/-- An attempt to add a key, and whether the system refuses it the file this time. -/
structure Attempt where
  host : String
  port : UInt16
  key : PublicKey
  refusal : Option SystemError := none
deriving DecidableEq, Repr

def Attempt.entry (a : Attempt) : Entry := entryOf a.host a.port a.key

def Attempt.steps (a : Attempt) : Saving Unit := do
  if (← get).verdict a.host a.port a.key = .verified then return
  Saving.appendLine a.refusal a.entry.line
  Saving.remember a.entry

/-- What an attempt gives and leaves. -/
def attempt (s : TrustStore) (a : Attempt) : EStateM.Result Failure TrustStore Unit := a.steps.run s

/-- The store, whatever the attempt gave. -/
def left : EStateM.Result Failure TrustStore Unit → TrustStore
  | .ok _ s | .error _ s => s

/-- The store after attempts of which any may have failed. -/
def afterAttempts (s : TrustStore) (as : List Attempt) : TrustStore :=
  as.foldl (fun s a => left (s.attempt a)) s

end SshTunnel.TrustStore

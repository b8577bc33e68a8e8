import SshTunnel.Trust.Resolution

/-!
A resolver that is asked time and again.  It keeps one trust store and one operator's file; what the gateway
presents, what the user answers and what others do to the file of the store may be new each time.
-/

namespace SshTunnel.Resolution

/-- One call of a resolver, and what it meets outside. -/
structure Visit where
  host : String
  port : UInt16
  /-- What comes of asking the gateway for its key. -/
  presented : Except Failure PublicKey
  /-- A key is only known by being read. -/
  legible : ∀ k, presented = .ok k → k.Legible
  answer : Question → Option Bool
  /-- What the others make of the place of the store before. -/
  meanwhile : Place → Place := id

namespace Visit

def world (v : Visit) (o : Option Operator) : World := ⟨o, fun _ _ => v.presented, v.answer⟩

/-- The store as the call finds it. -/
def found (v : Visit) (s : TrustStore) : TrustStore := { s with place := v.meanwhile s.place }

def outcome (v : Visit) (o : Option Operator) (s : TrustStore) : Outcome :=
  resolve (v.world o) (v.found s) v.host v.port

end Visit

/-- The store after one call after the other. -/
def after (o : Option Operator) (s : TrustStore) (vs : List Visit) : TrustStore :=
  vs.foldl (fun s v => (v.outcome o s).store) s

end SshTunnel.Resolution

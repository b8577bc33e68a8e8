import SshTunnel.Endpoint
import SshTunnel.Failure

/-!
A forwarding rule: where to listen, and which host and port the gateway is asked to reach.
-/

namespace SshTunnel

structure Rule where
  /-- Local address to listen on. -/
  bind : String
  /-- Local port; the system picks one for 0. -/
  localPort : UInt16
  /-- Host to reach, as the gateway resolves it. -/
  host : String
  port : UInt16
deriving DecidableEq, Repr

/-- The address that rules without one listen on. -/
def defaultBind : String := "127.0.0.1"

namespace Rule

def localAddr (r : Rule) : String := hostPort r.bind r.localPort

def remoteAddr (r : Rule) : String := hostPort r.host r.port

def text (r : Rule) : String := r.localAddr ++ " -> " ++ r.remoteAddr

/-- What is wrong with a rule by itself. -/
inductive Defect
  | emptyBind
  | emptyHost
  | zeroPort
deriving DecidableEq, Repr

/-- The first defect in the order bind address, host, port. -/
def defect? (r : Rule) : Option Defect :=
  if r.bind = "" then some .emptyBind
  else if r.host = "" then some .emptyHost
  else if r.port = 0 then some .zeroPort
  else none

def Defect.text : Defect → String
  | .emptyBind => "an empty bind address"
  | .emptyHost => "an empty remote host"
  | .zeroPort => "remote port 0"

/-- A rule without defects. -/
def Valid (r : Rule) : Prop := r.bind ≠ "" ∧ r.host ≠ "" ∧ r.port ≠ 0

instance (r : Rule) : Decidable r.Valid := inferInstanceAs (Decidable (_ ∧ _))

theorem defect?_eq_none_iff {r : Rule} : r.defect? = none ↔ r.Valid := by
  unfold defect? Valid
  repeat' split
  all_goals simp_all

end Rule

end SshTunnel

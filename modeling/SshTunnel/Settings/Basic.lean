import SshTunnel.Home
import SshTunnel.Rule.RuleSet

/-!
The settings of one run: the gateway and how to log in, the rules, how host keys are trusted, and time
limits.  `Settings.check` finds everything that is wrong before the network is touched.
-/

namespace SshTunnel

/-- The gateway's address and the user's credentials there. -/
structure GatewaySettings where
  host : String := ""
  port : UInt16 := 22
  user : String := ""
  /-- File of a private key. -/
  identityFile : Option String := none
  passphrase : Option String := none
  password : Option String := none
deriving DecidableEq, Repr

/-- How the gateway's host key is established. -/
structure HostKeySettings where
  /-- Trust store; the user's own one by default. -/
  trustStore : Option String := none
  /-- File of a public key given by the operator. -/
  keyFile : Option String := none
  acceptAny : Bool := false
  /-- Trust an unknown key without asking. -/
  trustNew : Bool := false
  /-- Ask about an unknown key. -/
  interactive : Bool := true
deriving DecidableEq, Repr

structure TimeSettings where
  connectSecs : UInt64 := 30
  dialSecs : UInt64 := 10
  closeGraceMs : UInt64 := 2000
  shutdownDeadlineSecs : UInt64 := 5
  acceptBackoffMs : UInt64 := 100
deriving DecidableEq, Repr

structure Settings where
  version : UInt32 := 1
  gateway : GatewaySettings := {}
  /-- Texts of forwarding rules. -/
  rules : List String := []
  /-- Address for the rules that name none. -/
  bind : String := defaultBind
  hostKeys : HostKeySettings := {}
  times : TimeSettings := {}
  /-- Most connections that a rule carries at one time. -/
  maxConnections : Option UInt64 := none
deriving DecidableEq, Repr

/-- What to say to a host key that nobody has approved yet. -/
inductive Consent
  | ask
  | always
  | never
deriving DecidableEq, Repr

/-- Time limits of a run in milliseconds, and the cap on connections. -/
structure Limits where
  connect : Nat := 30000
  dial : Nat := 10000
  closeGrace : Nat := 2000
  shutdownDeadline : Nat := 5000
  acceptBackoff : Nat := 100
  maxConnections : Option Nat := none
deriving DecidableEq, Repr

namespace Settings

/-- The newest format of the settings file that is understood. -/
def supportedVersion : UInt32 := 1

def trustStorePath (home : Option String) (s : Settings) : String :=
  s.hostKeys.trustStore.getD (Home.trustStore home)

def consent (s : Settings) : Consent :=
  if s.hostKeys.trustNew then .always else if s.hostKeys.interactive then .ask else .never

def limits (s : Settings) : Limits where
  connect := s.times.connectSecs.toNat * 1000
  dial := s.times.dialSecs.toNat * 1000
  closeGrace := s.times.closeGraceMs.toNat
  shutdownDeadline := s.times.shutdownDeadlineSecs.toNat * 1000
  acceptBackoff := s.times.acceptBackoffMs.toNat
  maxConnections := s.maxConnections.map UInt64.toNat

def ruleSet (s : Settings) : Except Failure RuleSet := RuleSet.parse s.rules s.bind

/-! ### Checks -/

inductive Defect
  | noHost
  | zeroPort
  | noUser
  | noCredentials
  | zeroTimeout
  | zeroConnections
deriving DecidableEq, Repr

def Defect.text : Defect → String
  | .noHost => "gateway host is required"
  | .zeroPort => "gateway port must be non-zero"
  | .noUser => "gateway user is required"
  | .noCredentials => "either an identity file or a password is required"
  | .zeroTimeout => "connect and dial timeouts must be non-zero"
  | .zeroConnections => "max connections per tunnel must be at least 1"

/-- The first defect outside the rules. -/
def defect? (s : Settings) : Option Defect :=
  if s.gateway.host = "" then some .noHost
  else if s.gateway.port = 0 then some .zeroPort
  else if s.gateway.user = "" then some .noUser
  else if s.gateway.identityFile = none ∧ s.gateway.password = none then some .noCredentials
  else if s.times.connectSecs = 0 ∨ s.times.dialSecs = 0 then some .zeroTimeout
  else if s.maxConnections = some 0 then some .zeroConnections
  else none

/-- Fails with the first defect, those of the rules last. -/
def check (s : Settings) : Except Failure Unit :=
  match s.defect? with
  | some d => .error (.configuration d.text)
  | none => s.ruleSet.map fun _ => ()

end Settings

end SshTunnel

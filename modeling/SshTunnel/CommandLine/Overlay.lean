import SshTunnel.CommandLine.Arguments
import SshTunnel.Settings.File

/-!
The settings of a run: those of the file, and over them what the command line says.
-/

namespace SshTunnel.Arguments

/-- The user before the last `@`, if there is one, and the host. -/
def userAndHost (gateway : String) : Option String × String :=
  let cs := gateway.toList.reverse
  let host := String.ofList (cs.takeWhile (· ≠ '@')).reverse
  match cs.dropWhile (· ≠ '@') with
  | _ :: user => (some (String.ofList user.reverse), host)
  | [] => (none, host)

def overGateway (a : Arguments) (g : GatewaySettings) : GatewaySettings :=
  let given := a.gateway.map userAndHost
  { host := (given.map Prod.snd).getD g.host
    port := a.port.getD g.port
    user := a.user.getD ((given.bind Prod.fst).getD g.user)
    identityFile := a.identity.or g.identityFile
    passphrase := a.passphrase.or g.passphrase
    password := a.password.or g.password }

/-- A switch can only be turned one way. -/
def overHostKeys (a : Arguments) (h : HostKeySettings) : HostKeySettings :=
  { trustStore := a.trustStore.or h.trustStore
    keyFile := a.keyFile.or h.keyFile
    acceptAny := a.acceptAny || h.acceptAny
    trustNew := a.trustNew || h.trustNew
    interactive := !a.nonInteractive && h.interactive }

def overTimes (a : Arguments) (t : TimeSettings) : TimeSettings :=
  { t with
    connectSecs := a.connectSecs.getD t.connectSecs
    dialSecs := a.dialSecs.getD t.dialSecs
    shutdownDeadlineSecs := a.shutdownSecs.getD t.shutdownDeadlineSecs }

/-- Settings with what was given on the command line in place of their own; rules replace all rules. -/
def applyTo (a : Arguments) (s : Settings) : Settings :=
  { version := s.version
    gateway := a.overGateway s.gateway
    rules := if a.rules = [] then s.rules else a.rules
    bind := a.bind.getD s.bind
    hostKeys := a.overHostKeys s.hostKeys
    times := a.overTimes s.times
    maxConnections := a.maxConnections.or s.maxConnections }

/-- The settings of the file that was named, or else of the user's own, which may be missing. -/
def loadFile (read : String → Except SystemError Bytes) (home : Option String) (a : Arguments) :
    Except Settings.LoadFault Settings :=
  match a.file, home with
  | some path, _ => Settings.loadRequired path (read path)
  | none, some h => Settings.load (Home.settingsFile h) (read (Home.settingsFile h))
  | none, none => .ok {}

/-- The settings of a run. -/
def settings (read : String → Except SystemError Bytes) (home : Option String) (a : Arguments) :
    Except Failure Settings :=
  match a.loadFile read home with
  | .error e => .error e.toFailure
  | .ok s => .ok (a.applyTo s)

end SshTunnel.Arguments

import SshTunnel.SystemError

/-!
Everything that can stop the program or one of its connections, the kinds callers branch on, the text
shown, and the exit code of the command.
-/

namespace SshTunnel

inductive Failure
  | configuration (message : String)
  | hostKeyUnresolved (message : String)
  | authenticationFailed (message : String)
  | transportUnreachable (message : String)
  | transportFailure (message : String)
  | bindFailed (address : String) (reason : BindReason) (message : String)
  | channelRefused (message : String)
  | timedOut (message : String)
  | system (message : String)
  | protocol (message : String)
  | key (message : String)
  | disconnected
deriving DecidableEq, Repr

namespace Failure

inductive Kind
  | configuration
  | hostKeyUnresolved
  | authenticationFailed
  | transportUnreachable
  | transportFailure
  | listenerBindFailure
  | perConnectionFailure
deriving DecidableEq, Repr

def kind : Failure → Kind
  | configuration _ => .configuration
  | hostKeyUnresolved _ => .hostKeyUnresolved
  | authenticationFailed _ | key _ => .authenticationFailed
  | transportUnreachable _ => .transportUnreachable
  | transportFailure _ | disconnected => .transportFailure
  | bindFailed .. => .listenerBindFailure
  | channelRefused _ | timedOut _ | system _ | protocol _ => .perConnectionFailure

def text : Failure → String
  | configuration m => "Configuration error: " ++ m
  | hostKeyUnresolved m => "Host key unresolved: " ++ m
  | authenticationFailed m => "Authentication failed: " ++ m
  | transportUnreachable m => "Gateway unreachable: " ++ m
  | transportFailure m => "Transport failure: " ++ m
  | bindFailed a _ m => "Failed to bind tunnel listener " ++ a ++ ": " ++ m
  | channelRefused m => "Channel error: " ++ m
  | timedOut m => "Timeout: " ++ m
  | system m => "IO error: " ++ m
  | protocol m => "SSH protocol error: " ++ m
  | key m => "Key error: " ++ m
  | disconnected => "Disconnected"

end Failure

/-- The exit code of the command; 0 is kept for success. -/
def Failure.Kind.exitCode : Failure.Kind → Nat
  | .configuration => 2
  | .hostKeyUnresolved => 3
  | .authenticationFailed => 4
  | .transportUnreachable | .transportFailure => 5
  | .listenerBindFailure => 6
  | .perConnectionFailure => 1

/-- The failure of a bind, in words for the operator where the reason is known. -/
def Failure.ofBind (address : String) (e : SystemError) : Failure :=
  .bindFailed address e.reason <|
    match e.reason with
    | .addrInUse => "port already in use, another application may be using this port"
    | .permissionDenied => "permission denied, ports below 1024 require elevated privileges"
    | .addrNotAvailable => "address not available, the specified address is not valid on this system"
    | .other => e.text

end SshTunnel

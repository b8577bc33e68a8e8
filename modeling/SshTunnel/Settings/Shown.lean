import SshTunnel.Settings.Basic
import SshTunnel.Text.Shown

/-!
Settings as a log shows them: of a passphrase or a password, only whether there is one.
-/

namespace SshTunnel

open Text

def GatewaySettings.shown (g : GatewaySettings) : Shown := .record "GatewayConfig" [
  ("host", .text g.host), ("port", .nat g.port.toNat), ("user", .text g.user),
  ("identity_file", .option .text g.identityFile), ("has_passphrase", .bool g.passphrase.isSome),
  ("has_password", .bool g.password.isSome)]

def HostKeySettings.shown (h : HostKeySettings) : Shown := .record "HostKeyConfig" [
  ("known_hosts", .option .text h.trustStore), ("host_key_file", .option .text h.keyFile),
  ("accept_any", .bool h.acceptAny), ("trust_new", .bool h.trustNew), ("interactive", .bool h.interactive)]

def TimeSettings.shown (t : TimeSettings) : Shown := .record "TimeoutConfig" [
  ("connect_secs", .nat t.connectSecs.toNat), ("dial_secs", .nat t.dialSecs.toNat),
  ("close_grace_ms", .nat t.closeGraceMs.toNat),
  ("shutdown_deadline_secs", .nat t.shutdownDeadlineSecs.toNat),
  ("accept_backoff_ms", .nat t.acceptBackoffMs.toNat)]

def Settings.shown (s : Settings) : Shown := .record "TunnelConfig" [
  ("version", .nat s.version.toNat), ("gateway", s.gateway.shown), ("tunnels", .list (s.rules.map .text)),
  ("bind_address", .text s.bind), ("host_keys", s.hostKeys.shown), ("timeouts", s.times.shown),
  ("max_connections_per_tunnel", .option (fun n => .nat n.toNat) s.maxConnections)]

end SshTunnel

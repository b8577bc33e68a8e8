import SshTunnel.Json.Reader
import SshTunnel.Json.Writer
import SshTunnel.Settings.Basic

/-!
Settings as JSON records.  Every member may be left out: each of a section that is there has a default of its own,
and a section that is not there has the one of its type.  The passphrase and the password are read but never
written.
-/

namespace SshTunnel

open Json

def GatewaySettings.jsonFields : List (Member GatewaySettings) := [
  .of "host" readString fun a g => { g with host := a },
  .of "port" readU16 fun n g => { g with port := n },
  .of "user" readString fun a g => { g with user := a },
  .of "identity_file" (readOption readString) fun a g => { g with identityFile := a },
  .of "passphrase" (readOption readString) fun a g => { g with passphrase := a },
  .of "password" (readOption readString) fun a g => { g with password := a }]

/-- What the members of a gateway section are where they are left out. -/
def GatewaySettings.leftOut : GatewaySettings where
  host := ""
  port := 22
  user := ""
  identityFile := none
  passphrase := none
  password := none

def HostKeySettings.jsonFields : List (Member HostKeySettings) := [
  .of "known_hosts" (readOption readString) fun a h => { h with trustStore := a },
  .of "host_key_file" (readOption readString) fun a h => { h with keyFile := a },
  .of "accept_any" readBool fun b h => { h with acceptAny := b },
  .of "trust_new" readBool fun b h => { h with trustNew := b },
  .of "interactive" readBool fun b h => { h with interactive := b }]

def HostKeySettings.leftOut : HostKeySettings where
  trustStore := none
  keyFile := none
  acceptAny := false
  trustNew := false
  interactive := true

def TimeSettings.jsonFields : List (Member TimeSettings) := [
  .of "connect_secs" readU64 fun n t => { t with connectSecs := n },
  .of "dial_secs" readU64 fun n t => { t with dialSecs := n },
  .of "close_grace_ms" readU64 fun n t => { t with closeGraceMs := n },
  .of "shutdown_deadline_secs" readU64 fun n t => { t with shutdownDeadlineSecs := n },
  .of "accept_backoff_ms" readU64 fun n t => { t with acceptBackoffMs := n }]

def TimeSettings.leftOut : TimeSettings where
  connectSecs := 30
  dialSecs := 10
  closeGraceMs := 2000
  shutdownDeadlineSecs := 5
  acceptBackoffMs := 100

namespace Settings

def jsonFields : List (Member Settings) := [
  .of "version" readU32 fun n s => { s with version := n },
  .of "gateway" (readRecord GatewaySettings.jsonFields .leftOut) fun g s => { s with gateway := g },
  .of "tunnels" (readArray readString) fun rs s => { s with rules := rs },
  .of "bind_address" readString fun a s => { s with bind := a },
  .of "host_keys" (readRecord HostKeySettings.jsonFields .leftOut) fun h s => { s with hostKeys := h },
  .of "timeouts" (readRecord TimeSettings.jsonFields .leftOut) fun t s => { s with times := t },
  .of "max_connections_per_tunnel" (readOption readU64) fun n s => { s with maxConnections := n }]

def leftOut : Settings where
  version := 1
  gateway := {}
  rules := []
  bind := defaultBind
  hostKeys := {}
  times := {}
  maxConnections := none

/-- The settings written in a JSON text, of any version. -/
def ofJsonText (text : String) : Except Fault Settings := readDocument (readRecord jsonFields leftOut) text

def toJson (s : Settings) : SshTunnel.Json := .object [
  ("version", .nat s.version.toNat),
  ("gateway", .object [
    ("host", .string s.gateway.host), ("port", .nat s.gateway.port.toNat), ("user", .string s.gateway.user),
    ("identity_file", .option .string s.gateway.identityFile)]),
  ("tunnels", .array (s.rules.map .string)),
  ("bind_address", .string s.bind),
  ("host_keys", .object [
    ("known_hosts", .option .string s.hostKeys.trustStore),
    ("host_key_file", .option .string s.hostKeys.keyFile), ("accept_any", .bool s.hostKeys.acceptAny),
    ("trust_new", .bool s.hostKeys.trustNew), ("interactive", .bool s.hostKeys.interactive)]),
  ("timeouts", .object [
    ("connect_secs", .nat s.times.connectSecs.toNat), ("dial_secs", .nat s.times.dialSecs.toNat),
    ("close_grace_ms", .nat s.times.closeGraceMs.toNat),
    ("shutdown_deadline_secs", .nat s.times.shutdownDeadlineSecs.toNat),
    ("accept_backoff_ms", .nat s.times.acceptBackoffMs.toNat)]),
  ("max_connections_per_tunnel", .option (fun n => .nat n.toNat) s.maxConnections)]

end Settings

end SshTunnel

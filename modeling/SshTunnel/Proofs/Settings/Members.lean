import SshTunnel.Proofs.Json.Objects
import SshTunnel.Settings.Format

/-!
The members of a settings file: what each is called, its type, what it is if it is left out, and what it sets.
-/

namespace SshTunnel

open Json

theorem reads_optionString : Reads (readOption readString) (Tree.IsOption Tree.IsString) :=
  reads_option reads_string (by simp [Tree.IsString])

theorem reads_optionU64 : Reads (readOption readU64) (Tree.IsOption Tree.IsU64) :=
  reads_option reads_u64 (by simp [Tree.IsU64])

/-! ### Sections -/

def GatewaySettings.fields : List (RecordField GatewaySettings) := [
  .typed "host" "" reads_string host fun a g => { g with host := a },
  .typed "port" 22 reads_u16 port fun n g => { g with port := n },
  .typed "user" "" reads_string user fun a g => { g with user := a },
  .typed "identity_file" none reads_optionString identityFile fun a g => { g with identityFile := a },
  .typed "passphrase" none reads_optionString passphrase fun a g => { g with passphrase := a },
  .typed "password" none reads_optionString password fun a g => { g with password := a }]

def HostKeySettings.fields : List (RecordField HostKeySettings) := [
  .typed "known_hosts" none reads_optionString trustStore fun a h => { h with trustStore := a },
  .typed "host_key_file" none reads_optionString keyFile fun a h => { h with keyFile := a },
  .typed "accept_any" false reads_bool acceptAny fun b h => { h with acceptAny := b },
  .typed "trust_new" false reads_bool trustNew fun b h => { h with trustNew := b },
  .typed "interactive" true reads_bool interactive fun b h => { h with interactive := b }]

def TimeSettings.fields : List (RecordField TimeSettings) := [
  .typed "connect_secs" 30 reads_u64 connectSecs fun n t => { t with connectSecs := n },
  .typed "dial_secs" 10 reads_u64 dialSecs fun n t => { t with dialSecs := n },
  .typed "close_grace_ms" 2000 reads_u64 closeGraceMs fun n t => { t with closeGraceMs := n },
  .typed "shutdown_deadline_secs" 5 reads_u64 shutdownDeadlineSecs fun n t => { t with shutdownDeadlineSecs := n },
  .typed "accept_backoff_ms" 100 reads_u64 acceptBackoffMs fun n t => { t with acceptBackoffMs := n }]

theorem GatewaySettings.complete : Complete fields leftOut where
  defaults := by simp [fields, RecordField.typed, leftOut]
  names := by decide
  get_set_other := by simp [fields, RecordField.typed]
  ext g g' h := by
    cases g
    cases g'
    simpa [fields, RecordField.typed] using h

theorem HostKeySettings.complete : Complete fields leftOut where
  defaults := by simp [fields, RecordField.typed, leftOut]
  names := by decide
  get_set_other := by simp [fields, RecordField.typed]
  ext h h' heq := by
    cases h
    cases h'
    simpa [fields, RecordField.typed] using heq

theorem TimeSettings.complete : Complete fields leftOut where
  defaults := by simp [fields, RecordField.typed, leftOut]
  names := by decide
  get_set_other := by simp [fields, RecordField.typed]
  ext t t' h := by
    cases t
    cases t'
    simpa [fields, RecordField.typed] using h

theorem GatewaySettings.jsonFields_eq : jsonFields = fields.map RecordField.member := rfl

theorem HostKeySettings.jsonFields_eq : jsonFields = fields.map RecordField.member := rfl

theorem TimeSettings.jsonFields_eq : jsonFields = fields.map RecordField.member := rfl

/-! ### Settings -/

namespace Settings

def fields : List (RecordField Settings) := [
  .typed "version" 1 reads_u32 version fun n s => { s with version := n },
  .record "gateway" {} GatewaySettings.complete gateway fun g s => { s with gateway := g },
  .typed "tunnels" [] (reads_array reads_string) rules fun rs s => { s with rules := rs },
  .typed "bind_address" "127.0.0.1" reads_string bind fun a s => { s with bind := a },
  .record "host_keys" {} HostKeySettings.complete hostKeys fun h s => { s with hostKeys := h },
  .record "timeouts" {} TimeSettings.complete times fun t s => { s with times := t },
  .typed "max_connections_per_tunnel" none reads_optionU64 maxConnections fun n s => { s with maxConnections := n }]

theorem complete : Complete fields leftOut where
  defaults := by simp [fields, RecordField.typed, RecordField.record, leftOut, defaultBind]
  names := by decide
  get_set_other := by simp [fields, RecordField.typed, RecordField.record]
  ext s s' h := by
    cases s
    cases s'
    simpa [fields, RecordField.typed, RecordField.record] using h

theorem jsonFields_eq : jsonFields = fields.map RecordField.member := rfl

/-- **A file is read exactly if its members make settings, and these are the ones it is read as.** -/
theorem ofJsonText_eq_ok {text : String} {ms : List (Option String × Tree)} (h : Document text.toList (.object ms))
    (s : Settings) : ofJsonText text = .ok s ↔ Makes fields ms s := by
  unfold ofJsonText
  rw [jsonFields_eq, readDocument_eq_ok (reads_record complete) h]
  rfl

end Settings

end SshTunnel

import Mathlib.Data.List.Forall2
import SshTunnel.Place
import SshTunnel.Proofs.Json.Records
import SshTunnel.Settings.File

/-!
Settings that are written to a file and read again.  All of them come back as they were but for the secrets, which
are not in the text at all.
-/

namespace SshTunnel

open Json

/-- Settings without passphrase and password. -/
def Settings.withoutSecrets (s : Settings) : Settings :=
  { s with gateway := { s.gateway with passphrase := none, password := none } }

/-! ### The records -/

theorem rereads_optionalString (o : Option String) : Rereads (readOption readString) (.option .string o) o :=
  rereads_option rereads_string string_head o

theorem rereads_optionalU64 (o : Option UInt64) :
    Rereads (readOption readU64) (.option (fun n => .nat n.toNat) o) o :=
  rereads_option rereads_u64 (fun n => nat_head n.toNat) o

theorem rereads_strings (texts : List String) : Rereads (readArray readString) (.array (texts.map .string)) texts := by
  refine rereads_array ?_
  rw [List.forall₂_map_left_iff, List.forall₂_same]
  exact fun text _ => rereads_string text

theorem rereads_gateway (g : GatewaySettings) :
    Rereads (readRecord GatewaySettings.jsonFields {})
      (.object [("host", .string g.host), ("port", .nat g.port.toNat), ("user", .string g.user),
        ("identity_file", .option .string g.identityFile)])
      { g with passphrase := none, password := none } := by
  refine rereads_record ?_
  refine .take _ rfl (by decide) (rereads_member (rereads_string g.host)) ?_
  refine .take _ rfl (by decide) (rereads_member (rereads_u16 g.port)) ?_
  refine .take _ rfl (by decide) (rereads_member (rereads_string g.user)) ?_
  refine .take _ rfl (by decide) (rereads_member (rereads_optionalString g.identityFile)) ?_
  exact .done (by simp [GatewaySettings.jsonFields, Member.of])

theorem rereads_hostKeys (h : HostKeySettings) :
    Rereads (readRecord HostKeySettings.jsonFields {})
      (.object [("known_hosts", .option .string h.trustStore), ("host_key_file", .option .string h.keyFile),
        ("accept_any", .bool h.acceptAny), ("trust_new", .bool h.trustNew), ("interactive", .bool h.interactive)])
      h := by
  refine rereads_record ?_
  refine .take _ rfl (by decide) (rereads_member (rereads_optionalString h.trustStore)) ?_
  refine .take _ rfl (by decide) (rereads_member (rereads_optionalString h.keyFile)) ?_
  refine .take _ rfl (by decide) (rereads_member (rereads_bool h.acceptAny)) ?_
  refine .take _ rfl (by decide) (rereads_member (rereads_bool h.trustNew)) ?_
  refine .take _ rfl (by decide) (rereads_member (rereads_bool h.interactive)) ?_
  exact .done (by simp [HostKeySettings.jsonFields, Member.of])

theorem rereads_times (t : TimeSettings) :
    Rereads (readRecord TimeSettings.jsonFields {})
      (.object [("connect_secs", .nat t.connectSecs.toNat), ("dial_secs", .nat t.dialSecs.toNat),
        ("close_grace_ms", .nat t.closeGraceMs.toNat),
        ("shutdown_deadline_secs", .nat t.shutdownDeadlineSecs.toNat),
        ("accept_backoff_ms", .nat t.acceptBackoffMs.toNat)])
      t := by
  refine rereads_record ?_
  refine .take _ rfl (by decide) (rereads_member (rereads_u64 t.connectSecs)) ?_
  refine .take _ rfl (by decide) (rereads_member (rereads_u64 t.dialSecs)) ?_
  refine .take _ rfl (by decide) (rereads_member (rereads_u64 t.closeGraceMs)) ?_
  refine .take _ rfl (by decide) (rereads_member (rereads_u64 t.shutdownDeadlineSecs)) ?_
  refine .take _ rfl (by decide) (rereads_member (rereads_u64 t.acceptBackoffMs)) ?_
  exact .done (by simp [TimeSettings.jsonFields, Member.of])

namespace Settings

theorem rereads_toJson (s : Settings) : Rereads (readRecord jsonFields {}) s.toJson s.withoutSecrets := by
  refine rereads_record ?_
  refine .take _ rfl (by decide) (rereads_member (rereads_u32 s.version)) ?_
  refine .take _ rfl (by decide) (rereads_member (rereads_gateway s.gateway)) ?_
  refine .take _ rfl (by decide) (rereads_member (rereads_strings s.rules)) ?_
  refine .take _ rfl (by decide) (rereads_member (rereads_string s.bind)) ?_
  refine .take _ rfl (by decide) (rereads_member (rereads_hostKeys s.hostKeys)) ?_
  refine .take _ rfl (by decide) (rereads_member (rereads_times s.times)) ?_
  refine .take _ rfl (by decide) (rereads_member (rereads_optionalU64 s.maxConnections)) ?_
  exact .done (by simp [jsonFields, Member.of])

/-! ### The file -/

theorem ofFileText_toJson (s : Settings) : ofFileText s.toJson.text =
    if supportedVersion < s.version then .error (.tooNew s.version supportedVersion) else .ok s.withoutSecrets := by
  have hread : ofJsonText s.toJson.text = .ok s.withoutSecrets := readDocument_text (rereads_toJson s)
  simp only [ofFileText, hread]
  rfl

theorem toJson_withoutSecrets (s : Settings) : s.withoutSecrets.toJson = s.toJson := rfl

/-- **Settings of a known version come back from their file, but for the secrets**; and the secrets leave no mark on
its text. -/
theorem reloaded (s : Settings) (h : s.version ≤ supportedVersion) (path : String) :
    loadRequired path (Place.file (Text.encode s.toJson.text)).read = .ok s.withoutSecrets ∧
      ∀ s' : Settings, s'.withoutSecrets = s.withoutSecrets → s'.toJson.text = s.toJson.text := by
  constructor
  · have hdecode := Text.decode?_encode s.toJson.text
    simp only [loadRequired, Place.read, hdecode, ofFileText_toJson, if_neg (UInt32.not_lt.2 h)]
  · intro s' hsame
    rw [← toJson_withoutSecrets s', hsame, toJson_withoutSecrets]

/-- Settings with characters that need escapes, with the largest numbers, and with secrets. -/
def thorny : Settings where
  version := 0
  gateway := { host := "ba\"s\\tion\n", port := 65535, user := "d\x00\x1f/é\u2028", passphrase := some "one",
               password := some "two" }
  rules := ["", "8080:db:5432"]
  hostKeys := { trustStore := some "", acceptAny := true, interactive := false }
  times := { connectSecs := 18446744073709551615, dialSecs := 0 }
  maxConnections := some 18446744073709551615

theorem reloaded_thorny : thorny.version ≤ supportedVersion ∧ thorny.withoutSecrets ≠ thorny ∧
    loadRequired "config.json" (Place.file (Text.encode thorny.toJson.text)).read = .ok thorny.withoutSecrets ∧
    { thorny with gateway := { thorny.gateway with password := some "three" } }.toJson.text = thorny.toJson.text := by
  obtain ⟨hload, hsame⟩ := reloaded thorny (by decide) "config.json"
  exact ⟨by decide, by decide, hload, hsame _ rfl⟩

end Settings

end SshTunnel

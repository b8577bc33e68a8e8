import SshTunnel.CommandLine.Overlay
import SshTunnel.CommandLine.Parser
import SshTunnel.Proofs.Run.Failures

/-!
Runs that nobody attends.  A command line can forbid every question, and a key which nobody stood for is turned away
then; but what the settings file says about new keys stays as it is, so that a file which has them trusted lets such
a key in.
-/

namespace SshTunnel

/-- No question is to be asked, and no key is to be trusted that is not vetted. -/
structure Arguments.Unattended (a : Arguments) : Prop where
  silent : a.nonInteractive = true
  keepsNewOut : a.trustNew = false
  checks : a.acceptAny = false

namespace Run

open Resolution (Course Learnt course_resolve persist persist_cases)

variable {w : World} {s : Settings}

/-! ### Keys that somebody stands for -/

/-- The keys that are vouched for before the run begins. -/
inductive Vetted (w : World) (s : Settings) (k : PublicKey) : Prop
  | stored (held : k ∈ (TrustStore.ofPlace (w.trustPlace s)).trustedKeys s.gateway.host s.gateway.port)
  | filed (path : String) (configured : s.hostKeys.keyFile = some path)
    (inFile : KeyFile.read (w.files path).read = .ok k)

/-- The session may show vetted keys alone. -/
def PinsVetted (w : World) (s : Settings) (pins : Pins) : Prop := ∃ ks, pins = .oneOf ks ∧ ∀ k ∈ ks, Vetted w s k

/-- The trust store is as it was, or has learnt the key of the operator's file. -/
def KeepsStore (w : World) (s : Settings) (p : Place) : Prop :=
  p = w.trustPlace s ∨ ∃ path k, s.hostKeys.keyFile = some path ∧ KeyFile.read (w.files path).read = .ok k ∧
    p = .file (TrustStore.appended (w.trustPlace s).content
      (TrustStore.entryOf s.gateway.host s.gateway.port k).line)

/-- A run relies on vetted keys alone, and the trust store learns no other. -/
structure VettedOnly (w : World) (s : Settings) : Prop where
  pinned : ∀ p, prepare w s = .ok p → ∀ pins, (settlePins w s).result = .ok pins → PinsVetted w s pins
  kept : KeepsStore w s (start w s).place

/-- A run that has all it needs is shown a key of which nobody knows. -/
structure Stranger (w : World) (s : Settings) (k : PublicKey) : Prop where
  ready : ∃ p, prepare w s = .ok p
  unknown : Unknown w s
  noFile : s.hostKeys.keyFile = none
  found : w.lookupFirst = .found
  shown : w.greeting = .shows k

theorem Stranger.not_vetted {k k' : PublicKey} (h : Stranger w s k) : ¬ Vetted w s k' := by
  intro hv
  cases hv with
  | stored held => simp [h.unknown.noneHeld] at held
  | filed path configured inFile => simp [h.noFile] at configured

/-- Consent is all that a stranger needs. -/
theorem Stranger.not_vettedOnly {k : PublicKey} (h : Stranger w s k) (yes : s.consent.decide w.typed = true) :
    ¬ VettedOnly w s := by
  intro honly
  obtain ⟨p, hp⟩ := h.ready
  have hpinned := h.unknown.settlePins_of_shown h.noFile h.found h.shown
  rw [if_pos yes] at hpinned
  obtain ⟨ks, hks, hvetted⟩ := honly.pinned p hp _ hpinned
  obtain rfl := Pins.oneOf.inj hks
  exact h.not_vetted (hvetted k (by simp))

/-! ### What is settled without strangers -/

theorem persist_place (p : Place) (host : String) (port : UInt16) (k : PublicKey) :
    (persist (.ofPlace p) host port k).1.place = p ∨ (persist (.ofPlace p) host port k).1.place =
      .file (TrustStore.appended p.content (TrustStore.entryOf host port k).line) := by
  rcases persist_cases (.ofPlace p) host port k with hp | hp
  · exact .inl (by rw [hp]; rfl)
  · exact .inr (by rw [hp]; rfl)

/-- A key that the store does not hold is the operator's, or that of a stranger to whom consent is given. -/
theorem filed_or_stranger (checked : s.hostKeys.acceptAny = false) {p : RuleSet × Login}
    (ready : prepare w s = .ok p)
    (noneHeld : (TrustStore.ofPlace (w.trustPlace s)).trustedKeys s.gateway.host s.gateway.port = [])
    {k : PublicKey} {src : KeySource} {done : List Resolution.Event}
    (h : Learnt (resolutionWorld w s) s.gateway.host s.gateway.port k src done) :
    (∃ path, s.hostKeys.keyFile = some path ∧ KeyFile.read (w.files path).read = .ok k) ∨
      Stranger w s k ∧ s.consent.decide w.typed = true := by
  cases h with
  | filed configured inFile =>
    obtain ⟨path, hpath, rfl⟩ := Option.map_eq_some_iff.1 configured
    exact .inl ⟨path, hpath, inFile⟩
  | consented noFile presented yes =>
    obtain ⟨found, shown⟩ := Preflight.fetch_eq_ok.1 presented
    have hnone : s.hostKeys.keyFile = none := by simpa [resolutionWorld] using noFile
    exact .inr ⟨⟨⟨p, ready⟩, ⟨checked, noneHeld⟩, hnone, found, shown⟩, by simpa [resolutionWorld] using yes⟩

/-- Where nobody consents to a stranger's key, a resolution comes to vetted keys. -/
theorem vetted_of_not_stranger (checked : s.hostKeys.acceptAny = false) {p : RuleSet × Login}
    (ready : prepare w s = .ok p) (h : s.consent.decide w.typed = true → ∀ k, ¬ Stranger w s k) :
    (∀ pins, (settlePins w s).result = .ok pins → PinsVetted w s pins) ∧
      KeepsStore w s (settlePins w s).place := by
  have hcourse := course_resolve (resolutionWorld w s) (.ofPlace (w.trustPlace s)) s.gateway.host s.gateway.port
  have hresult : (settlePins w s).result = (Resolution.resolve (resolutionWorld w s) (.ofPlace (w.trustPlace s))
      s.gateway.host s.gateway.port).result.map fun r => .oneOf r.keys := by
    simp [settlePins, checked]
  have hplace : (settlePins w s).place = (Resolution.resolve (resolutionWorld w s) (.ofPlace (w.trustPlace s))
      s.gateway.host s.gateway.port).store.place := by
    simp [settlePins, checked]
  -- only the course of the resolution counts from here on
  generalize Resolution.resolve (resolutionWorld w s) (.ofPlace (w.trustPlace s)) s.gateway.host
    s.gateway.port = o at hcourse hresult hplace
  cases hcourse with
  | stored held =>
    refine ⟨fun pins hpins => ?_, .inl hplace⟩
    rw [hresult] at hpins
    exact ⟨_, (Except.ok.inj hpins).symm, fun k hk => .stored hk⟩
  | failed noneHeld f unsaved =>
    refine ⟨fun pins hpins => ?_, .inl hplace⟩
    rw [hresult] at hpins
    cases hpins
  | @learnt noneHeld k src done learnt =>
    rcases filed_or_stranger checked ready noneHeld learnt with ⟨path, hpath, inFile⟩ | ⟨hstranger, yes⟩
    · refine ⟨fun pins hpins => ?_, ?_⟩
      · rw [hresult] at hpins
        refine ⟨[k], (Except.ok.inj hpins).symm, fun k' hk' => ?_⟩
        obtain rfl := List.mem_singleton.1 hk'
        exact .filed path hpath inFile
      · rw [hplace]
        rcases persist_place (w.trustPlace s) s.gateway.host s.gateway.port k with hp | hp
        · exact .inl hp
        · exact .inr ⟨path, k, hpath, inFile, hp⟩
    · exact absurd hstranger (h yes k)

theorem start_place_of_error {f : Failure} (h : prepare w s = .error f) : (start w s).place = w.trustPlace s := by
  simp only [start, h]

theorem start_place_of_prepared {p : RuleSet × Login} (h : prepare w s = .ok p) :
    (start w s).place = (settlePins w s).place := by
  simp only [start, h]
  split
  · rfl
  · rfl

/-- Only a stranger to whom consent is given gets into a run that looks at keys. -/
theorem vettedOnly_iff_consent (checked : s.hostKeys.acceptAny = false) :
    VettedOnly w s ↔ (s.consent.decide w.typed = true → ∀ k, ¬ Stranger w s k) := by
  refine ⟨fun h yes k hk => hk.not_vettedOnly yes h, fun h => ?_⟩
  cases ready : prepare w s with
  | error f =>
    refine ⟨fun p hp => ?_, .inl (start_place_of_error ready)⟩
    rw [ready] at hp
    cases hp
  | ok p =>
    obtain ⟨hpins, hplace⟩ := vetted_of_not_stranger checked ready h
    refine ⟨fun _ _ => hpins, ?_⟩
    rw [start_place_of_prepared ready]
    exact hplace

/-! ### The command line over the file -/

/-- Nobody is asked, but the file's word on new keys counts. -/
theorem consent_applyTo {a : Arguments} (ha : a.Unattended) (file : Settings) :
    (a.applyTo file).consent = if file.hostKeys.trustNew then .always else .never := by
  simp [Arguments.applyTo, Arguments.overHostKeys, Settings.consent, ha.silent, ha.keepsNewOut]

theorem acceptAny_applyTo {a : Arguments} (ha : a.Unattended) (file : Settings) :
    (a.applyTo file).hostKeys.acceptAny = file.hostKeys.acceptAny := by
  simp [Arguments.applyTo, Arguments.overHostKeys, ha.checks]

/-- **A run that nobody attends asks nothing; and it relies on vetted keys alone, unless the file has new keys
trusted and a stranger is there to show one.** -/
theorem unattended_vettedOnly_iff (w : World) (file : Settings) (a : Arguments) (ha : a.Unattended)
    (checked : file.hostKeys.acceptAny = false) :
    (∀ q, (a.applyTo file).consent.shown q = "") ∧
      (VettedOnly w (a.applyTo file) ↔
        (file.hostKeys.trustNew = true → ∀ k, ¬ Stranger w (a.applyTo file) k)) := by
  have hconsent := consent_applyTo ha file
  have hany : (a.applyTo file).hostKeys.acceptAny = false := by rw [acceptAny_applyTo ha, checked]
  rw [vettedOnly_iff_consent hany, hconsent]
  cases file.hostKeys.trustNew with
  | true => exact ⟨fun q => rfl, by simp [Consent.decide]⟩
  | false => exact ⟨fun q => rfl, by simp [Consent.decide]⟩

/-- A command line that names a settings file and forbids questions. -/
def unattended : Arguments where
  file := some "c.json"
  nonInteractive := true

theorem unattended_vettedOnly_firstMeeting :
    unattended.Unattended ∧ firstSettings.hostKeys.acceptAny = false ∧
      Stranger firstMeeting (unattended.applyTo firstSettings) (.ed25519 (List.replicate 32 7)) ∧
      VettedOnly firstMeeting (unattended.applyTo firstSettings) := by
  have ha : unattended.Unattended := ⟨rfl, rfl, rfl⟩
  refine ⟨ha, rfl, ?_, ?_⟩
  · have hready : prepare firstMeeting (unattended.applyTo firstSettings) =
        .ok (⟨[⟨"127.0.0.1", 8080, "db", 5432⟩]⟩, .password "hunter2") := by decide +kernel
    exact ⟨⟨_, hready⟩, ⟨rfl, by decide +kernel⟩, rfl, rfl, rfl⟩
  · exact (unattended_vettedOnly_iff firstMeeting firstSettings unattended ha rfl).2.2 fun h => by cases h

/-- Settings that have new keys trusted, and their file. -/
def trustingSettings : Settings := { firstSettings with hostKeys := { trustNew := true } }

def trustingFile : String :=
  "\x7b\"gateway\":\x7b\"host\":\"Bastion\",\"user\":\"deploy\",\"password\":\"hunter2\"\x7d," ++
    "\"tunnels\":[\"8080:db:5432\"],\"host_keys\":\x7b\"trust_new\":true\x7d\x7d"

/-- The gateway of the first meeting, for a user with that file. -/
def trustingUser : World where
  home := none
  files path := if path = "c.json" then .file (Text.encode trustingFile) else .absent
  decoder := PrivateKey.clearDecoder
  typed := []
  greeting := firstMeeting.greeting
  conduct := firstMeeting.conduct
  system := firstMeeting.system

/-- Nobody is asked, and yet the key of a stranger gets in. -/
theorem unattended_trusts_stranger :
    Arguments.parse ["--config", "c.json", "--non-interactive"] = .ok unattended ∧ unattended.Unattended ∧
      unattended.loadFile (fun path => (trustingUser.files path).read) none = .ok trustingSettings ∧
      trustingSettings.hostKeys.acceptAny = false ∧
      ¬ VettedOnly trustingUser (unattended.applyTo trustingSettings) := by
  have hready : prepare trustingUser (unattended.applyTo trustingSettings) =
      .ok (⟨[⟨"127.0.0.1", 8080, "db", 5432⟩]⟩, .password "hunter2") := by decide +kernel
  have hstranger : Stranger trustingUser (unattended.applyTo trustingSettings) (.ed25519 (List.replicate 32 7)) :=
    ⟨⟨_, hready⟩, ⟨rfl, by decide +kernel⟩, rfl, rfl, rfl⟩
  exact ⟨by decide +kernel, ⟨rfl, rfl, rfl⟩, by decide +kernel, rfl, hstranger.not_vettedOnly rfl⟩

end Run

end SshTunnel

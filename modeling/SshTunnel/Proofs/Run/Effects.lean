import SshTunnel.Proofs.Gateway.Attempt
import SshTunnel.Proofs.Run.HostKey

/-!
What a run does outside, and when.  Settings, identity file and method to log in come first: if one of them
will not do, the run ends there, and nobody has noticed anything of it.  Listening comes last, after the
gateway has said yes.
-/

namespace SshTunnel.Run

/-! ### What will not do -/

/-- Why a file is no text. -/
inductive Unread (w : World) (path : String) : SystemError → Prop
  | refused {why : SystemError} (h : (w.files path).read = .error why) : Unread w path why
  | garbled {b : Bytes} (h : (w.files path).read = .ok b) (hb : Text.decode? b = none) :
    Unread w path .notUtf8

/-- What ends a run before it has begun. -/
inductive Unfit (w : World) (s : Settings) : Failure → Prop
  | settings {f : Failure} (h : s.check = .error f) : Unfit w s f
  | identity (fine : s.check = .ok ()) {path : String} (named : s.gateway.identityFile = some path)
    {why : SystemError} (unread : Unread w path why) : Unfit w s
      (.configuration ("Failed to read identity file " ++ Text.quoted path ++ ": " ++ why.text))
  | method (fine : s.check = .ok ()) {c : Credentials}
    (known : s.credentials (fun path => (w.files path).read) = .ok c) {f : Failure}
    (h : Login.select w.decoder c = .error f) : Unfit w s f

variable {w : World} {s : Settings} {f : Failure}

theorem exists_ruleSet_of_check (h : s.check = .ok ()) : ∃ rules, s.ruleSet = .ok rules := by
  unfold Settings.check at h
  split at h
  · cases h
  · cases hr : s.ruleSet with
    | error f => simp [hr, Except.map] at h
    | ok rules => exact ⟨rules, rfl⟩

theorem withKeyFile_of_unread {path : String} {why : SystemError} (h : Unread w path why) (c : Credentials)
    (passphrase : Option String) : c.withKeyFile path (w.files path).read passphrase =
      .error (.configuration ("Failed to read identity file " ++ Text.quoted path ++ ": " ++ why.text)) := by
  cases h with
  | refused h => simp only [Credentials.withKeyFile, h]
  | garbled h hb => simp only [Credentials.withKeyFile, h, hb]

theorem credentials_of_unread {path : String} {why : SystemError} (named : s.gateway.identityFile = some path)
    (h : Unread w path why) : s.credentials (fun path => (w.files path).read) =
      .error (.configuration ("Failed to read identity file " ++ Text.quoted path ++ ": " ++ why.text)) := by
  simp only [Settings.credentials, named, withKeyFile_of_unread h]
  rfl

theorem prepare_of_unfit (h : Unfit w s f) : prepare w s = .error f := by
  cases h with
  | settings h =>
    simp only [prepare, h]
    rfl
  | identity fine named unread =>
    obtain ⟨rules, hrules⟩ := exists_ruleSet_of_check fine
    simp only [prepare, fine, hrules, credentials_of_unread named unread]
    rfl
  | method fine known h =>
    obtain ⟨rules, hrules⟩ := exists_ruleSet_of_check fine
    simp only [prepare, fine, hrules, known, Except.bind, bind, h]

theorem start_of_unfit (h : Unfit w s f) : start w s = ⟨.error f, w.trustPlace s, []⟩ := by
  simp only [start, prepare_of_unfit h]

/-- Only the files count, and which keys are read from them. -/
theorem Unfit.of_files {w' : World} (h : Unfit w s f) (hfiles : w'.files = w.files)
    (hdecoder : w'.decoder = w.decoder) : Unfit w' s f := by
  cases h with
  | settings h => exact .settings h
  | identity fine named unread =>
    refine .identity fine named ?_
    cases unread with
    | refused h => exact .refused (by rw [hfiles, h])
    | garbled h hb => exact .garbled (by rw [hfiles, h]) hb
  | method fine known h => exact .method fine (by rw [hfiles, known]) (by rw [hdecoder, h])

/-- A run that ended before it began. -/
structure Untouched (w : World) (s : Settings) (f : Failure) : Prop where
  result : (start w s).result = .error f
  /-- The trust store is as it was, or is as absent as it was. -/
  place : (start w s).place = w.trustPlace s
  /-- No question, no fetch of a host key, nothing in a session, and no socket. -/
  trace : (start w s).trace = []
  /-- Nobody outside was turned to: the run comes to the same whatever gateway, user and system there are. -/
  alone : ∀ w' : World, w'.home = w.home → w'.files = w.files → w'.decoder = w.decoder → start w' s = start w s

theorem untouched_of_unfit (h : Unfit w s f) : Untouched w s f := by
  refine ⟨by rw [start_of_unfit h], by rw [start_of_unfit h], by rw [start_of_unfit h], ?_⟩
  intro w' hhome hfiles hdecoder
  rw [start_of_unfit h, start_of_unfit (h.of_files hfiles hdecoder), World.trustPlace, World.trustPlace, hhome,
    hfiles]

/-! ### What comes before listening -/

/-- The gateway says yes to the user's attempt to log in, having shown a key that it may show. -/
def Accepted (w : World) (s : Settings) (a : Login.Attempt) : Prop :=
  a.user = s.gateway.user ∧ (∃ rules, prepare w s = .ok (rules, a.method)) ∧
    ∃ pins shown, (settlePins w s).result = .ok pins ∧ w.lookup = .found ∧
      w.conduct (pins.algorithms?.getD Pins.preferred) = .shows shown (.ready (.answers (.ok true))) ∧
      pins.check s.gateway.host s.gateway.port shown = .ok ()

/-- Whoever listens has a session. -/
theorem session_of_socket {rules : RuleSet} {e : Establisher} {x : Listener.Event}
    (h : .socket x ∈ (connect w rules e).2) :
    ∃ name, (e.establish w.lookup (w.conduct e.offered)).result = .ok name := by
  unfold connect at h
  dsimp only at h
  split at h
  · simp at h
  · rename_i name hname
    exact ⟨name, hname⟩

/-- **Nothing happens before the run has all it needs, and no listener is bound before the gateway has let
the user in.** -/
theorem effects_in_order (w : World) (s : Settings) :
    (∀ f, Unfit w s f → Untouched w s f) ∧
      ∀ x, .socket x ∈ (start w s).trace → ∃ before a after,
        (start w s).trace = before ++ .session (.attempted a) :: after ∧ (∀ y, .socket y ∉ before) ∧
          Accepted w s a := by
  refine ⟨fun f => untouched_of_unfit, fun x hx => ?_⟩
  obtain ⟨rules, login, pins, hprepared, hpins, htrace⟩ := connected_of_mem_start (by simp) hx
  have hsocket : .socket x ∈ (connect w rules (establisher s login pins)).2 := by
    rw [htrace] at hx
    simpa using hx
  obtain ⟨name, hname⟩ := session_of_socket hsocket
  obtain ⟨shown, hlookup, hshown, hcheck⟩ := Establisher.greets_of_ok hname
  obtain ⟨after, hafter, -⟩ := connect_trace (w := w) rules (establisher s login pins)
  have hopen := Establisher.establish_of_greets hlookup hshown hcheck
  obtain ⟨rest, hlogin, -⟩ := Establisher.logIn_trace (establisher s login pins) (.answers (.ok true))
  -- before the attempt come the settling of the pins and the look at the key; the listeners are in `after`
  refine ⟨(settlePins w s).trace.map .trust ++ [.session (.checked shown)], ⟨s.gateway.user, login⟩,
    rest.map .session ++ after, ?_, by simp, rfl, ⟨rules, hprepared⟩, pins, shown, hpins, hlookup, hshown, hcheck⟩
  rw [htrace, hafter, hopen, hlogin]
  simp [establisher]

/-- A user whose identity file is no key, at a gateway that would take anybody. -/
def keylessUser : World where
  home := none
  files path := if path = "id_ed25519" then .file (Text.encode "not a private key\n") else .absent
  decoder := PrivateKey.clearDecoder
  typed := Text.encode "yes\n"
  greeting := .shows (.ed25519 (List.replicate 32 7))
  conduct _ := .shows (.ed25519 (List.replicate 32 7)) (.ready (.answers (.ok true)))
  system _ r := .ok ⟨r.bind, r.localPort⟩

def keylessSettings : Settings where
  gateway := { host := "bastion", user := "deploy", identityFile := some "id_ed25519" }
  rules := ["8080:db:5432"]
  hostKeys := { trustStore := some "known_hosts", trustNew := true }

/-- Nothing is learnt about the gateway of a user who cannot log in; with a password the same user gets to
listen, after an attempt that the gateway accepts. -/
theorem effects_in_order_keylessUser :
    Untouched keylessUser keylessSettings
      (.authenticationFailed "private key could not be loaded: failed to parse key: could not read key") ∧
    ∃ a, Accepted keylessUser
      { keylessSettings with gateway := { keylessSettings.gateway with password := some "hunter2" } } a := by
  constructor
  · refine (effects_in_order keylessUser keylessSettings).1 _ (.method (by decide +kernel)
      (c := ⟨"deploy", some "not a private key\n", none, none⟩) (by decide +kernel) (by decide +kernel))
  · have hbound : .socket (.opened ⟨0, ⟨"127.0.0.1", 8080, "db", 5432⟩, ⟨"127.0.0.1", 8080⟩⟩) ∈ (start keylessUser
        { keylessSettings with gateway := { keylessSettings.gateway with password := some "hunter2" } }).trace := by
      decide +kernel
    obtain ⟨_, a, _, -, -, ha⟩ := (effects_in_order _ _).2 _ hbound
    exact ⟨a, ha⟩

end SshTunnel.Run

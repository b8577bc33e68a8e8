import SshTunnel.Proofs.Gateway.Hindrance
import SshTunnel.Proofs.Listener.Binding
import SshTunnel.Proofs.Rule.Faults
import SshTunnel.Proofs.Run.Effects

/-!
Why a run fails before it is running.  Each stage of the start has its own obstacles, and each obstacle shows
itself as one kind of failure, whatever the failure was that it began with; so the kind of the failure, and the
exit code with it, tell the stage.
-/

namespace SshTunnel.Run

open Resolution (resolve_of_stored resolve_of_operator resolve_of_no_operator)

variable {w : World} {s : Settings} {f : Failure} {kind : Failure.Kind}

/-! ### Before anything is done outside -/

theorem failsAs_check (s : Settings) : FailsAs .configuration s.check := by
  unfold Settings.check
  split
  · exact .error rfl
  · exact (RuleSet.failsAs_parse s.rules s.bind).map _

theorem defect?_of_check (h : s.check = .ok ()) : s.defect? = none := by
  unfold Settings.check at h
  split at h
  · cases h
  · assumption

theorem user_ne_empty (h : s.check = .ok ()) : s.gateway.user ≠ "" := by
  intro huser
  have hdefect := defect?_of_check h
  unfold Settings.defect? at hdefect
  split_ifs at hdefect

/-- There is something to log in with. -/
theorem credentials_given (h : s.check = .ok ()) (hfile : s.gateway.identityFile = none) :
    ∃ p, s.gateway.password = some p := by
  have hdefect := defect?_of_check h
  unfold Settings.defect? at hdefect
  split_ifs at hdefect with h₁ h₂ h₃ h₄
  exact Option.ne_none_iff_exists'.1 fun hp => h₄ ⟨hfile, hp⟩

/-- What is not ready for a start, and the kind of failure as which it shows itself.  Missing credentials are a
matter of the settings. -/
inductive Unready (w : World) (s : Settings) : Failure.Kind → Prop
  | settings {f : Failure} (h : s.check = .error f) : Unready w s .configuration
  | identity (fine : s.check = .ok ()) {path : String} (named : s.gateway.identityFile = some path)
    {why : SystemError} (unread : Unread w path why) : Unready w s .configuration
  /-- The private key is of no use, and there is no password in its place. -/
  | key (fine : s.check = .ok ()) {path : String} (named : s.gateway.identityFile = some path) {b : Bytes}
    {text : String} (file : (w.files path).read = .ok b) (decoded : Text.decode? b = some text)
    {flaw : PrivateKey.Flaw} (useless : PrivateKey.ofText w.decoder text s.gateway.passphrase = .error flaw)
    (noPassword : s.gateway.password = none) : Unready w s .authenticationFailed

theorem credentials_of_identity {path : String} {b : Bytes} {text : String}
    (named : s.gateway.identityFile = some path) (file : (w.files path).read = .ok b)
    (decoded : Text.decode? b = some text) : s.credentials (fun path => (w.files path).read) =
      .ok ⟨s.gateway.user, some text, s.gateway.passphrase, s.gateway.password⟩ := by
  cases hp : s.gateway.password with
  | none => simp [Settings.credentials, named, Credentials.withKeyFile, file, decoded, hp,
      Credentials.withPrivateKey, bind, Except.bind]
  | some p => simp [Settings.credentials, named, Credentials.withKeyFile, file, decoded, hp,
      Credentials.withPrivateKey, Credentials.withPassword, bind, Except.bind]

theorem credentials_of_password {p : String} (hfile : s.gateway.identityFile = none)
    (hp : s.gateway.password = some p) : s.credentials (fun path => (w.files path).read) =
      .ok ⟨s.gateway.user, none, none, some p⟩ := by
  simp [Settings.credentials, hfile, hp, Credentials.withPassword, bind, Except.bind]

theorem error_of_unready (h : Unready w s kind) : ∃ f, prepare w s = .error f ∧ f.kind = kind := by
  cases h with
  | settings h => exact ⟨_, prepare_of_unfit (.settings h), failsAs_check s _ h⟩
  | identity fine named unread => exact ⟨_, prepare_of_unfit (.identity fine named unread), rfl⟩
  | @key fine path named b text file decoded flaw useless noPassword =>
    have hselect : Login.select w.decoder
        ⟨s.gateway.user, some text, s.gateway.passphrase, s.gateway.password⟩ =
        .error (.authenticationFailed ("private key could not be loaded: " ++ flaw.text)) := by
      simp [Login.select, useless, noPassword]
    exact ⟨_, prepare_of_unfit (.method fine (credentials_of_identity named file decoded) hselect), rfl⟩

/-- Whoever can log in by some method is ready. -/
theorem prepare_of_select {c : Credentials} {login : Login} (hsignals : w.signals = .ok ())
    (fine : s.check = .ok ()) (known : s.credentials (fun path => (w.files path).read) = .ok c)
    (hselect : Login.select w.decoder c = .ok login) : ∃ rules, prepare w s = .ok (rules, login) := by
  obtain ⟨rules, hrules⟩ := exists_ruleSet_of_check fine
  refine ⟨rules, ?_⟩
  simp only [prepare, fine, hrules, known, hselect, hsignals, bind, Except.bind]

theorem exists_unready_of_error (hsignals : w.signals = .ok ()) (h : prepare w s = .error f) :
    ∃ kind, Unready w s kind := by
  -- what is left to show: a login was selected, so that the start was prepared after all
  have hready : ∀ {c login}, s.check = .ok () →
      s.credentials (fun path => (w.files path).read) = .ok c →
        Login.select w.decoder c = .ok login → False := by
    intro c login fine known hselect
    obtain ⟨rules, hok⟩ := prepare_of_select hsignals fine known hselect
    rw [hok] at h
    cases h
  cases fine : s.check with
  | error f => exact ⟨_, .settings fine⟩
  | ok _ =>
    cases named : s.gateway.identityFile with
    | none =>
      obtain ⟨p, hp⟩ := credentials_given fine named
      exact (hready fine (credentials_of_password named hp) rfl).elim
    | some path =>
      cases file : (w.files path).read with
      | error why => exact ⟨_, .identity fine named (.refused file)⟩
      | ok b =>
        cases decoded : Text.decode? b with
        | none => exact ⟨_, .identity fine named (.garbled file decoded)⟩
        | some text =>
          have known := credentials_of_identity named file decoded
          cases useless : PrivateKey.ofText w.decoder text s.gateway.passphrase with
          | ok k => exact (hready fine known (Login.select_of_key ⟨text, rfl, useless⟩)).elim
          | error flaw =>
            cases hp : s.gateway.password with
            | none => exact ⟨_, .key fine named file decoded useless hp⟩
            | some p =>
              have hselect : Login.select w.decoder
                  ⟨s.gateway.user, some text, s.gateway.passphrase, some p⟩ = .ok (.password p) := by
                simp [Login.select, useless]
              rw [hp] at known
              exact (hready fine known hselect).elim

theorem check_of_prepared {p : RuleSet × Login} (h : prepare w s = .ok p) : s.check = .ok () := by
  cases fine : s.check with
  | ok _ => rfl
  | error f =>
    rw [prepare_of_unfit (.settings fine)] at h
    cases h

/-! ### The host key -/

/-- Not any key will do, and the trust store holds none for the gateway. -/
structure Unknown (w : World) (s : Settings) : Prop where
  checked : s.hostKeys.acceptAny = false
  noneHeld : (TrustStore.ofPlace (w.trustPlace s)).trustedKeys s.gateway.host s.gateway.port = []

/-- Why the gateway's host key is not settled, and the kind of failure as which this shows itself. -/
inductive Unsettled (w : World) (s : Settings) : Failure.Kind → Prop
  | keyFile (unknown : Unknown w s) {path : String} (configured : s.hostKeys.keyFile = some path)
    {flaw : KeyFile.Flaw} (useless : KeyFile.read (w.files path).read = .error flaw) :
    Unsettled w s .hostKeyUnresolved
  | unresolved (unknown : Unknown w s) (noFile : s.hostKeys.keyFile = none) (h : w.lookupFirst ≠ .found) :
    Unsettled w s .transportUnreachable
  | brokenOff (unknown : Unknown w s) (noFile : s.hostKeys.keyFile = none) (found : w.lookupFirst = .found)
    {why : Failure} (h : w.greeting = .breaksOff why) : Unsettled w s .transportUnreachable
  | silent (unknown : Unknown w s) (noFile : s.hostKeys.keyFile = none) (found : w.lookupFirst = .found)
    (h : w.greeting = .stalls) : Unsettled w s .transportUnreachable
  /-- The gateway gets through the handshake without a key. -/
  | keyless (unknown : Unknown w s) (noFile : s.hostKeys.keyFile = none) (found : w.lookupFirst = .found)
    (h : w.greeting = .keyless) : Unsettled w s .hostKeyUnresolved
  | untrusted (unknown : Unknown w s) (noFile : s.hostKeys.keyFile = none) (found : w.lookupFirst = .found)
    {k : PublicKey} (shown : w.greeting = .shows k) (no : s.consent.decide w.typed = false) :
    Unsettled w s .hostKeyUnresolved

theorem Unknown.settlePins_of_file (h : Unknown w s) {path : String} (configured : s.hostKeys.keyFile = some path) :
    (settlePins w s).result = (Resolution.fromFile ⟨path, (w.files path).read⟩ (.ofPlace (w.trustPlace s))
      s.gateway.host s.gateway.port).result.map fun r => .oneOf r.keys := by
  have hway := resolve_of_operator (w := resolutionWorld w s) (o := ⟨path, (w.files path).read⟩) h.noneHeld
    (by simp [resolutionWorld, configured])
  simp [settlePins, h.checked, hway]

theorem Unknown.settlePins_of_no_file (h : Unknown w s) (noFile : s.hostKeys.keyFile = none) :
    (settlePins w s).result = (Resolution.fromGateway (resolutionWorld w s) (.ofPlace (w.trustPlace s))
      s.gateway.host s.gateway.port).result.map fun r => .oneOf r.keys := by
  have hway := resolve_of_no_operator (w := resolutionWorld w s) h.noneHeld (by simp [resolutionWorld, noFile])
  simp [settlePins, h.checked, hway]

theorem error_of_fetch (h : Unknown w s) (noFile : s.hostKeys.keyFile = none)
    (hfetch : Preflight.fetch w.lookupFirst w.greeting s.gateway.host s.gateway.port s.limits.connect = .error f) :
    (settlePins w s).result = .error f := by
  simp [h.settlePins_of_no_file noFile, Resolution.fromGateway, resolutionWorld, hfetch, Except.map]

/-- A gateway that shows its key leaves it to the user. -/
theorem Unknown.settlePins_of_shown (h : Unknown w s) (noFile : s.hostKeys.keyFile = none)
    (found : w.lookupFirst = .found) {k : PublicKey} (shown : w.greeting = .shows k) :
    (settlePins w s).result = if s.consent.decide w.typed then .ok (.oneOf [k])
      else .error (Resolution.untrusted s.gateway.host s.gateway.port k) := by
  have hfetch : (resolutionWorld w s).fetch s.gateway.host s.gateway.port = .ok k :=
    Preflight.fetch_eq_ok.2 ⟨found, shown⟩
  have hanswer : ∀ q, (resolutionWorld w s).answer q = some (s.consent.decide w.typed) := fun _ => rfl
  rw [h.settlePins_of_no_file noFile]
  simp only [Resolution.fromGateway, hfetch, hanswer]
  cases s.consent.decide w.typed with
  | true => rfl
  | false => rfl

theorem error_of_unsettled (h : Unsettled w s kind) : ∃ f, (settlePins w s).result = .error f ∧ f.kind = kind := by
  cases h with
  | @keyFile unknown path configured flaw useless =>
    refine ⟨.hostKeyUnresolved (flaw.text path), ?_, rfl⟩
    simp [unknown.settlePins_of_file configured, Resolution.fromFile, useless, Except.map]
  | unresolved unknown noFile h =>
    obtain ⟨f, hf, hkind⟩ := Establisher.kind_of_lookup s.gateway.host s.gateway.port h
    refine ⟨f, error_of_fetch unknown noFile ?_, hkind⟩
    simp only [Preflight.fetch, hf, bind, Except.bind]
  | brokenOff unknown noFile found h =>
    exact ⟨_, error_of_fetch unknown noFile (by rw [found, h]; rfl), rfl⟩
  | silent unknown noFile found h =>
    exact ⟨_, error_of_fetch unknown noFile (by rw [found, h]; rfl), rfl⟩
  | keyless unknown noFile found h =>
    exact ⟨_, error_of_fetch unknown noFile (by rw [found, h]; rfl), rfl⟩
  | @untrusted unknown noFile found k shown no =>
    refine ⟨Resolution.untrusted s.gateway.host s.gateway.port k, ?_, rfl⟩
    simp [unknown.settlePins_of_shown noFile found shown, no]

theorem exists_unsettled_of_error (h : (settlePins w s).result = .error f) : ∃ kind, Unsettled w s kind := by
  by_cases hany : s.hostKeys.acceptAny = true
  · simp [settlePins, hany] at h
  have hchecked : s.hostKeys.acceptAny = false := by simpa using hany
  -- only a host that the store does not know is settled by the file, or by the gateway and the user
  by_cases hheld : (TrustStore.ofPlace (w.trustPlace s)).trustedKeys s.gateway.host s.gateway.port = []
  · have hunknown : Unknown w s := ⟨hchecked, hheld⟩
    cases hfile : s.hostKeys.keyFile with
    | some path =>
      cases hread : KeyFile.read (w.files path).read with
      | error flaw => exact ⟨_, .keyFile hunknown hfile hread⟩
      | ok k => simp [hunknown.settlePins_of_file hfile, Resolution.fromFile, hread, Except.map] at h
    | none =>
      by_cases hfound : w.lookupFirst = .found
      · cases hg : w.greeting with
        | keyless => exact ⟨_, .keyless hunknown hfile hfound hg⟩
        | breaksOff why => exact ⟨_, .brokenOff hunknown hfile hfound hg⟩
        | stalls => exact ⟨_, .silent hunknown hfile hfound hg⟩
        | shows k =>
          refine ⟨_, .untrusted hunknown hfile hfound hg ?_⟩
          rw [hunknown.settlePins_of_shown hfile hfound hg] at h
          split at h
          · cases h
          · rename_i hno
            exact (Bool.not_eq_true _).mp hno
      · exact ⟨_, .unresolved hunknown hfile hfound⟩
  · simp [settlePins, hchecked, resolve_of_stored hheld, Except.map] at h

/-! ### The whole start -/

/-- What makes a start fail, and the kind of failure as which it shows itself. -/
inductive Obstacle (w : World) (s : Settings) : Failure.Kind → Prop
  | unready {kind : Failure.Kind} (h : Unready w s kind) : Obstacle w s kind
  | unsettled {kind : Failure.Kind} {rules : RuleSet} {login : Login} (prepared : prepare w s = .ok (rules, login))
    (h : Unsettled w s kind) : Obstacle w s kind
  | hindered {kind : Failure.Kind} {rules : RuleSet} {login : Login} {pins : Pins}
    (prepared : prepare w s = .ok (rules, login)) (settled : (settlePins w s).result = .ok pins)
    (h : Establisher.Hindered (establisher s login pins) w.lookup
      (w.conduct (pins.algorithms?.getD Pins.preferred)) kind) : Obstacle w s kind
  /-- The gateway lets the user in, but the system refuses a listener. -/
  | refused {rules : RuleSet} {a : Login.Attempt} (prepared : prepare w s = .ok (rules, a.method))
    (accepted : Accepted w s a) (h : Listener.Refuses w.system rules.rules) : Obstacle w s .listenerBindFailure

theorem start_of_settled {rules : RuleSet} {login : Login} {pins : Pins} (prepared : prepare w s = .ok (rules, login))
    (settled : (settlePins w s).result = .ok pins) :
    (start w s).result = (connect w rules (establisher s login pins)).1 := by
  have huser := user_ne_empty (check_of_prepared prepared)
  simp [start, prepared, settled, Except.bind, Establisher.ofLogin, huser, establisher]

/-- What the session comes to decides whether there is any listening. -/
theorem connect_of_error {rules : RuleSet} {e : Establisher}
    (h : (e.establish w.lookup (w.conduct e.offered)).result = .error f) : (connect w rules e).1 = .error f := by
  simp only [connect, h]

theorem connect_of_ok {rules : RuleSet} {e : Establisher} {name : String}
    (h : (e.establish w.lookup (w.conduct e.offered)).result = .ok name) :
    (connect w rules e).1 = (Listener.bindAll w.system rules).result.map fun ls => ⟨name, rules, ls⟩ := by
  simp only [connect, h, listen]
  split
  · rename_i hb
    simp only [hb, Except.map]
  · rename_i hb
    simp only [hb, Except.map]

theorem error_of_obstacle (htransport : ∀ names, (w.conduct names).ByTransport) (h : Obstacle w s kind) :
    ∃ f, (start w s).result = .error f ∧ f.kind = kind := by
  cases h with
  | unready h =>
    obtain ⟨f, hf, hkind⟩ := error_of_unready h
    exact ⟨f, by simp only [start, hf], hkind⟩
  | unsettled prepared h =>
    obtain ⟨f, hf, hkind⟩ := error_of_unsettled h
    exact ⟨f, by simp only [start, prepared, hf, Except.bind], hkind⟩
  | hindered prepared settled h =>
    obtain ⟨f, hf, hkind⟩ := Establisher.error_of_hindered (htransport _) h
    refine ⟨f, ?_, hkind⟩
    rw [start_of_settled prepared settled, connect_of_error hf]
  | @refused rules a prepared accepted h =>
    obtain ⟨-, -, pins, shown, settled, hfound, hshows, hright⟩ := accepted
    obtain ⟨f, hf, hkind⟩ := Listener.error_of_refuses h
    refine ⟨f, ?_, hkind⟩
    have hopen := congrArg Session.Opening.result
      (Establisher.establish_of_greets (e := establisher s a.method pins) hfound hshows hright)
    rw [start_of_settled prepared settled, connect_of_ok hopen, hf]
    rfl

theorem exists_obstacle_of_error (hsignals : w.signals = .ok ()) (h : (start w s).result = .error f) :
    ∃ kind, Obstacle w s kind := by
  -- the first stage that fails names the obstacle: preparing, the pins, the session, the listeners
  cases prepared : prepare w s with
  | error f =>
    obtain ⟨kind, hkind⟩ := exists_unready_of_error hsignals prepared
    exact ⟨kind, .unready hkind⟩
  | ok p =>
    obtain ⟨rules, login⟩ := p
    cases settled : (settlePins w s).result with
    | error f =>
      obtain ⟨kind, hkind⟩ := exists_unsettled_of_error settled
      exact ⟨kind, .unsettled prepared hkind⟩
    | ok pins =>
      rw [start_of_settled prepared settled] at h
      cases hopen : ((establisher s login pins).establish w.lookup
          (w.conduct (establisher s login pins).offered)).result with
      | error f =>
        obtain ⟨kind, hkind⟩ := Establisher.exists_hindered_of_error hopen
        exact ⟨kind, .hindered prepared settled hkind⟩
      | ok name =>
        obtain ⟨shown, hfound, hshows, hright⟩ := Establisher.greets_of_ok hopen
        have haccepted : Accepted w s ⟨s.gateway.user, login⟩ :=
          ⟨rfl, ⟨rules, prepared⟩, pins, shown, settled, hfound, hshows, hright⟩
        refine ⟨_, .refused prepared haccepted ?_⟩
        rw [connect_of_ok hopen] at h
        cases hb : (Listener.bindAll w.system rules).result with
        | error f => exact Listener.refuses_of_error hb
        | ok ls =>
          rw [hb] at h
          cases h

/-- The kinds of obstacles. -/
theorem Obstacle.code (h : Obstacle w s kind) : (kind, kind.exitCode) ∈
    [(Failure.Kind.configuration, 2), (.hostKeyUnresolved, 3), (.authenticationFailed, 4),
      (.transportUnreachable, 5), (.listenerBindFailure, 6)] := by
  cases h with
  | unready h => cases h <;> decide
  | unsettled prepared h => cases h <;> decide
  | hindered prepared settled h => cases h <;> decide
  | refused prepared accepted h => decide

/-- **A run that fails before it is running tells which obstacle it met**, by the kind of its failure and by its
exit code; no failure that belongs to a connection or to a session that was open gets out of a start. -/
theorem failure_tells_obstacle (w : World) (s : Settings) (hsignals : w.signals = .ok ())
    (htransport : ∀ names, (w.conduct names).ByTransport) :
    (∀ kind, (∃ f, (start w s).result = .error f ∧ f.kind = kind) ↔ Obstacle w s kind) ∧
      ∀ f, (start w s).result = .error f → (f.kind, f.kind.exitCode) ∈
        [(Failure.Kind.configuration, 2), (.hostKeyUnresolved, 3), (.authenticationFailed, 4),
          (.transportUnreachable, 5), (.listenerBindFailure, 6)] := by
  have hiff : ∀ kind, (∃ f, (start w s).result = .error f ∧ f.kind = kind) ↔ Obstacle w s kind := by
    refine fun kind => ⟨?_, error_of_obstacle htransport⟩
    rintro ⟨f, hf, rfl⟩
    obtain ⟨kind, hkind⟩ := exists_obstacle_of_error hsignals hf
    obtain ⟨f', hf', rfl⟩ := error_of_obstacle htransport hkind
    rw [hf] at hf'
    obtain rfl := Except.error.inj hf'
    exact hkind
  exact ⟨hiff, fun f hf => ((hiff f.kind).1 ⟨f, hf, rfl⟩).code⟩

/-- A gateway that hangs up once its key was accepted. -/
def hangingUp : World :=
  { firstMeeting with conduct := fun _ => .shows (.ed25519 (List.replicate 32 7)) (.breaksOff (.protocol "HUP")) }

/-- To the transport this is a failure of its protocol, which by itself would belong to a connection. -/
theorem failure_tells_obstacle_hangingUp :
    hangingUp.signals = .ok () ∧ (∀ names, (hangingUp.conduct names).ByTransport) ∧
      (Failure.protocol "HUP").kind = .perConnectionFailure ∧
      ∃ f, (start hangingUp firstSettings).result = .error f ∧ f.kind = .transportUnreachable := by
  have hpins : (settlePins hangingUp firstSettings).result = .ok (.oneOf [.ed25519 (List.replicate 32 7)]) := by
    decide +kernel
  have hprepared : prepare hangingUp firstSettings =
      .ok (⟨[⟨"127.0.0.1", 8080, "db", 5432⟩]⟩, .password "hunter2") := by decide +kernel
  refine ⟨rfl, fun _ => ⟨_, rfl⟩, rfl, ?_⟩
  refine ((failure_tells_obstacle hangingUp firstSettings rfl fun _ => ⟨_, rfl⟩).1 _).2 ?_
  exact .hindered hprepared hpins (.brokenHandshake rfl rfl (Pins.check_oneOf.2 ⟨_, by simp, rfl⟩))

end SshTunnel.Run

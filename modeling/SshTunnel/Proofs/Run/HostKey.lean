import SshTunnel.Key.Armor
import SshTunnel.Proofs.Gateway.Session
import SshTunnel.Proofs.Trust.Resolution
import SshTunnel.Run.Start

/-!
Who gets to see the user's credentials.  A gateway may show one host key when it is asked for one and another
in the session; a run logs in only after the key of the session was found equal to a key that the trust store,
the operator or the user stands for.
-/

namespace SshTunnel.Run

open Resolution (question)

/-- The keys that a run may take for the gateway's own, unless any key will do. -/
inductive Approved (w : World) (s : Settings) (k : PublicKey) : Prop
  /-- The trust store held it for the gateway when the run began. -/
  | stored (held : k ∈ (TrustStore.ofPlace (w.trustPlace s)).trustedKeys s.gateway.host s.gateway.port)
  /-- The store held none, and it is the one in the operator's file. -/
  | filed (path : String)
      (noneHeld : (TrustStore.ofPlace (w.trustPlace s)).trustedKeys s.gateway.host s.gateway.port = [])
      (configured : s.hostKeys.keyFile = some path) (inFile : KeyFile.read (w.files path).read = .ok k)
  /-- The store held none and there is no operator's file: the gateway showed it when it was asked for its
  key, the only question was about its fingerprint, and the answer was yes. -/
  | consented
      (noneHeld : (TrustStore.ofPlace (w.trustPlace s)).trustedKeys s.gateway.host s.gateway.port = [])
      (noFile : s.hostKeys.keyFile = none) (shown : w.greeting = .shows k)
      (asked : ∀ q, .trust (.asked q) ∈ (start w s).trace ↔
        q = ⟨s.gateway.host, s.gateway.port, k.algorithm, k.fingerprint⟩)
      (yes : s.consent.decide w.typed = true)

variable {w : World} {s : Settings}

/-! ### What a start does -/

/-- What is used of the settings to open the session. -/
def establisher (s : Settings) (login : Login) (pins : Pins) : Establisher :=
  ⟨s.gateway.host, s.gateway.port, s.gateway.user, login, pins, s.limits.connect⟩

/-- A start that does more than to settle the host key has gone through everything before it. -/
theorem connected_of_mem_start {x : World.Event} (hx : ∀ e, x ≠ .trust e) (h : x ∈ (start w s).trace) :
    ∃ rules login pins, prepare w s = .ok (rules, login) ∧ (settlePins w s).result = .ok pins ∧
      (start w s).trace =
        (settlePins w s).trace.map .trust ++ (connect w rules (establisher s login pins)).2 := by
  have hno : ∀ es : List Resolution.Event, x ∉ es.map World.Event.trust := by
    intro es hmem
    obtain ⟨e, -, rfl⟩ := List.mem_map.1 hmem
    exact hx e rfl
  unfold start at h ⊢
  cases hp : prepare w s with
  | error f => simp [hp] at h
  | ok p =>
    obtain ⟨rules, login⟩ := p
    simp only [hp] at h ⊢
    cases ht : (settlePins w s).result with
    | error f => exact absurd (by simpa [ht, Except.bind] using h) (hno _)
    | ok pins =>
      by_cases hu : s.gateway.user = ""
      · exact absurd (by simpa [ht, Except.bind, Establisher.ofLogin, hu] using h) (hno _)
      · refine ⟨rules, login, pins, rfl, rfl, ?_⟩
        simp [Except.bind, Establisher.ofLogin, hu, establisher]

/-- Listening does nothing in the session but to close it. -/
theorem session_notMem_listen {rules : RuleSet} {name : String} {e : Session.Event} :
    .session e ∉ (listen w rules name).2 := by
  unfold listen
  dsimp only
  split <;> simp

/-- What is done on the way to a session comes first. -/
theorem connect_trace (rules : RuleSet) (e : Establisher) :
    ∃ after, (connect w rules e).2 =
        (e.establish w.lookup (w.conduct e.offered)).trace.map .session ++ after ∧
      ∀ x, .session x ∉ after := by
  unfold connect
  dsimp only
  split
  · exact ⟨[], by simp, by simp⟩
  · exact ⟨_, rfl, fun x => session_notMem_listen⟩

theorem trust_notMem_connect {rules : RuleSet} {e : Establisher} {x : Resolution.Event} :
    .trust x ∉ (connect w rules e).2 := by
  unfold connect listen
  dsimp only
  split
  · simp
  · split <;> simp

/-! ### The keys that a session is pinned to -/

theorem settlePins_ok {pins : Pins} (ha : s.hostKeys.acceptAny = false)
    (h : (settlePins w s).result = .ok pins) :
    ∃ r, (Resolution.resolve (resolutionWorld w s) (.ofPlace (w.trustPlace s)) s.gateway.host
        s.gateway.port).result = .ok r ∧ pins = .oneOf r.keys := by
  simp only [settlePins, ha, Bool.false_eq_true, if_false] at h
  cases hr : (Resolution.resolve (resolutionWorld w s) (.ofPlace (w.trustPlace s)) s.gateway.host
      s.gateway.port).result with
  | error f => simp [hr, Except.map] at h
  | ok r =>
    refine ⟨r, rfl, ?_⟩
    simpa [hr, Except.map, eq_comm] using h

theorem settlePins_trace (ha : s.hostKeys.acceptAny = false) :
    (settlePins w s).trace = (Resolution.resolve (resolutionWorld w s) (.ofPlace (w.trustPlace s))
      s.gateway.host s.gateway.port).trace := by
  simp [settlePins, ha]

/-- Every key that a session is pinned to is approved. -/
theorem approved_of_resolved {r : Resolved} {k : PublicKey}
    (ht : ∀ q, .trust (.asked q) ∈ (start w s).trace ↔
      .asked q ∈ (Resolution.resolve (resolutionWorld w s) (.ofPlace (w.trustPlace s)) s.gateway.host
        s.gateway.port).trace)
    (h : (Resolution.resolve (resolutionWorld w s) (.ofPlace (w.trustPlace s)) s.gateway.host
      s.gateway.port).result = .ok r)
    (hk : k ∈ r.keys) : Approved w s k := by
  -- as the resolution looks: in the store, in the file of the operator, at the gateway
  by_cases hn : (TrustStore.ofPlace (w.trustPlace s)).trustedKeys s.gateway.host s.gateway.port = []
  · cases hf : s.hostKeys.keyFile with
    | some path =>
      rw [Resolution.resolve_of_operator (o := ⟨path, (w.files path).read⟩) hn
        (by simp [resolutionWorld, hf])] at h
      obtain ⟨k', hread, rfl⟩ := Resolution.fromFile_result_ok.1 h
      obtain rfl : k = k' := by simpa using hk
      exact .filed path hn hf hread
    | none =>
      have ho : (resolutionWorld w s).operator = none := by simp [resolutionWorld, hf]
      rw [Resolution.resolve_of_no_operator hn ho] at h ht
      obtain ⟨k', hfetch, hyes, rfl⟩ := Resolution.fromGateway_result_ok.1 h
      obtain rfl : k = k' := by simpa using hk
      refine .consented hn hf (Preflight.fetch_eq_ok.1 hfetch).2 (fun q => ?_)
        (by simpa [resolutionWorld] using hyes)
      rw [ht, Resolution.asked_mem_fromGateway, hfetch]
      simp [question]
  · rw [Resolution.resolve_of_stored hn] at h
    obtain rfl := Except.ok.inj h
    exact .stored hk

/-! ### The attempt -/

/-- **Nobody logs in at a gateway whose key in the session is not an approved one.**  The key is looked at
right before the attempt, which is the only one of the run. -/
theorem attempt_only_at_approved_gateway (w : World) (s : Settings) (a : Login.Attempt)
    (ha : s.hostKeys.acceptAny = false) (h : .session (.attempted a) ∈ (start w s).trace) :
    ∃ pins shown next, (settlePins w s).result = .ok pins ∧
      w.conduct (pins.algorithms?.getD Pins.preferred) = .shows shown next ∧
      (∃ k, Approved w s k ∧ k.encode = shown.encode) ∧
      ∃ before after,
        (start w s).trace = before ++ .session (.checked shown) :: .session (.attempted a) :: after ∧
        ∀ b, .session (.attempted b) ∉ before ∧ .session (.attempted b) ∉ after := by
  obtain ⟨rules, login, pins, -, hpins, htrace⟩ := connected_of_mem_start (by simp) h
  -- what comes behind the session binds listeners, and holds no attempt
  obtain ⟨after, hafter, hnone⟩ := connect_trace (w := w) rules (establisher s login pins)
  have hatt : .attempted a ∈ ((establisher s login pins).establish w.lookup
      (w.conduct (establisher s login pins).offered)).trace := by
    rw [htrace, hafter] at h
    simpa [hnone] using h
  obtain ⟨shown, r, hshown, hcheck, hopen⟩ := Establisher.attempted_mem_establish hatt
  obtain ⟨res, hres, rfl⟩ := settlePins_ok ha hpins
  obtain ⟨k, hk, henc⟩ := Pins.check_oneOf.1 hcheck
  refine ⟨_, shown, _, hpins, hshown, ⟨k, ?_, henc⟩, ?_⟩
  · refine approved_of_resolved (fun q => ?_) hres hk
    rw [htrace, ← settlePins_trace ha]
    simp [trust_notMem_connect]
  · obtain ⟨rest, hlogin, hno⟩ := Establisher.logIn_trace (establisher s login (.oneOf res.keys)) r
    rw [hopen, hlogin] at hatt hafter
    obtain rfl : a = ⟨s.gateway.user, login⟩ := by simpa [hno, establisher] using hatt
    refine ⟨(settlePins w s).trace.map .trust, rest.map .session ++ after, ?_, ?_⟩
    · rw [htrace, hafter]
      simp [establisher]
    · simp [hno, hnone]

/-- A user who meets a gateway for the first time and says yes to its key. -/
def firstMeeting : World where
  home := none
  files _ := .absent
  decoder := PrivateKey.clearDecoder
  typed := Text.encode "yes\n"
  greeting := .shows (.ed25519 (List.replicate 32 7))
  conduct _ := .shows (.ed25519 (List.replicate 32 7)) (.ready (.answers (.ok true)))
  system _ r := .ok ⟨r.bind, r.localPort⟩

def firstSettings : Settings where
  gateway := { host := "Bastion", user := "deploy", password := some "hunter2" }
  rules := ["8080:db:5432"]

theorem attempt_at_first_meeting :
    firstSettings.hostKeys.acceptAny = false ∧
      .session (.attempted ⟨"deploy", .password "hunter2"⟩) ∈ (start firstMeeting firstSettings).trace ∧
      ∃ k, Approved firstMeeting firstSettings k ∧
        k.encode = (PublicKey.ed25519 (List.replicate 32 7)).encode := by
  have h : .session (.attempted ⟨"deploy", .password "hunter2"⟩) ∈
      (start firstMeeting firstSettings).trace := by decide +kernel
  obtain ⟨_, _, _, -, hshown, hk, -⟩ := attempt_only_at_approved_gateway _ _ _ rfl h
  cases hshown
  exact ⟨rfl, h, hk⟩

end SshTunnel.Run

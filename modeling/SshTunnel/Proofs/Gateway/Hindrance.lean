import SshTunnel.Proofs.Gateway.Attempt

/-!
What keeps a session from being opened.  Whatever goes wrong on the way shows itself as one of three kinds of
failure: the gateway cannot be reached, it is not the one that was meant, or it does not let the user in.
-/

namespace SshTunnel

/-- A connection that breaks off does so for reasons of the transport, which are failures of its protocol. -/
def Session.Conduct.ByTransport : Session.Conduct → Prop
  | .breaksOff why | .shows _ (.breaksOff why) => ∃ m, why = .protocol m
  | .stalls | .shows _ .stalls | .shows _ (.ready _) => True

namespace Establisher

open Session

variable {e : Establisher} {l : Lookup} {g : Conduct} {kind : Failure.Kind}

/-- What keeps a session from being opened, and the kind of failure as which it shows itself. -/
inductive Hindered (e : Establisher) (l : Lookup) (g : Conduct) : Failure.Kind → Prop
  | unresolved (h : l ≠ .found) : Hindered e l g .transportUnreachable
  | refusedHandshake (found : l = .found) {why : Failure} (h : g = .breaksOff why) :
    Hindered e l g .transportUnreachable
  | slowHandshake (found : l = .found) (h : g = .stalls) : Hindered e l g .transportUnreachable
  /-- The key shown is none of those that are pinned. -/
  | otherKey (found : l = .found) {k : PublicKey} {next : Welcome} (h : g = .shows k next) {ks : List PublicKey}
    (pinned : e.pins = .oneOf ks) (differs : ∀ t ∈ ks, t.encode ≠ k.encode) : Hindered e l g .hostKeyUnresolved
  | brokenHandshake (found : l = .found) {k : PublicKey} {why : Failure} (h : g = .shows k (.breaksOff why))
    (right : e.pins.check e.host e.port k = .ok ()) : Hindered e l g .transportUnreachable
  | stuckHandshake (found : l = .found) {k : PublicKey} (h : g = .shows k .stalls)
    (right : e.pins.check e.host e.port k = .ok ()) : Hindered e l g .transportUnreachable
  | rejected (h : Greets e l g (.answers (.ok false))) : Hindered e l g .authenticationFailed
  | brokenAttempt {why : Failure} (h : Greets e l g (.answers (.error why))) : Hindered e l g .authenticationFailed
  | unanswered (h : Greets e l g .stalls) : Hindered e l g .transportUnreachable

theorem kind_of_lookup (host : String) (port : UInt16) (h : l ≠ .found) :
    ∃ f, l.check host port = .error f ∧ f.kind = .transportUnreachable := by
  cases l with
  | found => exact absurd rfl h
  | failed why => exact ⟨_, rfl, rfl⟩
  | empty => exact ⟨_, rfl, rfl⟩

/-- A key that is refused is none of those that are pinned. -/
theorem check_cases (p : Pins) (host : String) (port : UInt16) (k : PublicKey) : p.check host port k = .ok () ∨
    ∃ ks, p = .oneOf ks ∧ (∀ t ∈ ks, t.encode ≠ k.encode) ∧
      p.check host port k = .error (Pins.mismatch host port ks k) := by
  cases p with
  | any => exact Or.inl rfl
  | oneOf ks =>
    by_cases h : ∃ t ∈ ks, t.encode = k.encode
    · exact Or.inl (Pins.check_oneOf.2 h)
    · have hdiffers : ∀ t ∈ ks, t.encode ≠ k.encode := fun t ht he => h ⟨t, ht, he⟩
      refine Or.inr ⟨ks, rfl, hdiffers, ?_⟩
      simpa [Pins.check] using hdiffers

/-- A session that is hindered is not opened. -/
theorem error_of_hindered (hg : g.ByTransport) (h : Hindered e l g kind) :
    ∃ f, (e.establish l g).result = .error f ∧ f.kind = kind := by
  cases h with
  | unresolved hl =>
    obtain ⟨f, hf, hkind⟩ := kind_of_lookup e.host e.port hl
    exact ⟨f, by simp only [establish, hf], hkind⟩
  | refusedHandshake found h =>
    subst found h
    obtain ⟨m, rfl⟩ := hg
    exact ⟨_, rfl, rfl⟩
  | slowHandshake found h =>
    subst found h
    exact ⟨_, rfl, rfl⟩
  | @otherKey found k next h ks pinned differs =>
    subst found h
    have hno : e.pins.check e.host e.port k ≠ .ok () := by
      rw [pinned, ne_eq, Pins.check_oneOf]
      rintro ⟨t, ht, he⟩
      exact differs t ht he
    obtain ⟨ks', -, -, hcheck⟩ := (check_cases e.pins e.host e.port k).resolve_left hno
    exact ⟨_, by simp only [establish, Lookup.check, connect, hcheck]; rfl, rfl⟩
  | brokenHandshake found h right =>
    subst found h
    obtain ⟨m, rfl⟩ := hg
    exact ⟨_, by simp only [establish, Lookup.check, connect, right]; rfl, rfl⟩
  | stuckHandshake found h right =>
    subst found h
    exact ⟨_, by simp only [establish, Lookup.check, connect, right]; rfl, rfl⟩
  | rejected h =>
    obtain ⟨k, hl, hshows, hcheck⟩ := h
    rw [establish_of_greets hl hshows hcheck]
    exact ⟨_, rfl, rfl⟩
  | @brokenAttempt why h =>
    obtain ⟨k, hl, hshows, hcheck⟩ := h
    rw [establish_of_greets hl hshows hcheck]
    cases why <;> exact ⟨_, rfl, rfl⟩
  | unanswered h =>
    obtain ⟨k, hl, hshows, hcheck⟩ := h
    rw [establish_of_greets hl hshows hcheck]
    exact ⟨_, rfl, rfl⟩

/-- A session that is not opened is hindered. -/
theorem exists_hindered_of_error {f : Failure} (h : (e.establish l g).result = .error f) :
    ∃ kind, Hindered e l g kind := by
  by_cases hl : l = .found
  · cases g with
    | breaksOff why => exact ⟨_, .refusedHandshake hl rfl⟩
    | stalls => exact ⟨_, .slowHandshake hl rfl⟩
    | shows k next =>
      rcases check_cases e.pins e.host e.port k with hright | ⟨ks, hpins, hdiffers, -⟩
      · cases next with
        | breaksOff why => exact ⟨_, .brokenHandshake hl rfl hright⟩
        | stalls => exact ⟨_, .stuckHandshake hl rfl hright⟩
        | ready r =>
          have hgreets : Greets e l (.shows k (.ready r)) r := ⟨k, hl, rfl, hright⟩
          match r, hgreets with
          | .stalls, hgreets => exact ⟨_, .unanswered hgreets⟩
          | .answers (.ok false), hgreets => exact ⟨_, .rejected hgreets⟩
          | .answers (.error why), hgreets => exact ⟨_, .brokenAttempt hgreets⟩
          | .answers (.ok true), _ =>
            -- a yes opens the session
            rw [establish_of_greets hl rfl hright] at h
            cases h
      · exact ⟨_, .otherKey hl rfl hpins hdiffers⟩
  · exact ⟨_, .unresolved hl⟩

end Establisher

end SshTunnel

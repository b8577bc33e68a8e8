import Mathlib.Tactic.Common
import SshTunnel.Gateway.Session

/-!
When an attempt to log in is made: the gateway has shown a host key that the pins admit, and has carried on.
Such an attempt comes right after the look at the key, and it is the only one.
-/

namespace SshTunnel

/-! ### The pins -/

theorem Pins.check_oneOf {ks : List PublicKey} {host : String} {port : UInt16} {k : PublicKey} :
    (Pins.oneOf ks).check host port k = .ok () ↔ ∃ t ∈ ks, t.encode = k.encode := by
  unfold Pins.check
  split
  · rename_i h
    cases h
  · rename_i ks' h
    obtain rfl : ks = ks' := by simpa using h
    simp

theorem Preflight.fetch_eq_ok {l : Lookup} {g : Greeting} {host : String} {port : UInt16} {limit : Nat}
    {k : PublicKey} : fetch l g host port limit = .ok k ↔ l = .found ∧ g = .shows k := by
  cases l <;> cases g <;> simp [fetch, Lookup.check, bind, Except.bind]

/-- The attempts to log in among what was done. -/
def Session.attempts (es : List Session.Event) : List Login.Attempt :=
  es.filterMap fun
    | .attempted a => some a
    | .checked _ | .disconnected => none

theorem Session.mem_attempts {es : List Session.Event} {a : Login.Attempt} :
    a ∈ attempts es ↔ .attempted a ∈ es := by
  unfold attempts
  rw [List.mem_filterMap]
  constructor
  · rintro ⟨x, hx, ha⟩
    cases x with
    | attempted b => exact Option.some.inj ha ▸ hx
    | checked k => cases ha
    | disconnected => cases ha
  · exact fun h => ⟨_, h, rfl⟩

namespace Establisher

open Session

variable {e : Establisher} {l : Lookup} {g : Conduct} {r : Reply}

/-! ### Logging in -/

/-- Logging in begins with an attempt, and there is no other. -/
theorem logIn_trace (e : Establisher) (r : Reply) :
    ∃ rest, (e.logIn r).trace = .attempted ⟨e.user, e.login⟩ :: rest ∧ ∀ a, .attempted a ∉ rest := by
  cases r with
  | stalls => exact ⟨[], rfl, by simp⟩
  | answers answer =>
    simp only [logIn]
    split
    · exact ⟨[], rfl, by simp⟩
    · exact ⟨[.disconnected], rfl, by simp⟩

/-! ### Whether it comes to an attempt -/

/-- The handshake succeeds in time, and the gateway has this answer to the attempt: it can be reached, shows a
key that the pins admit, and carries on. -/
def Greets (e : Establisher) (l : Lookup) (g : Conduct) (r : Reply) : Prop :=
  ∃ k, l = .found ∧ g = .shows k (.ready r) ∧ e.pins.check e.host e.port k = .ok ()

theorem establish_of_greets {k : PublicKey} (hl : l = .found) (hg : g = .shows k (.ready r))
    (hcheck : e.pins.check e.host e.port k = .ok ()) :
    e.establish l g = ⟨(e.logIn r).result, .checked k :: (e.logIn r).trace⟩ := by
  subst hl hg
  simp [establish, Lookup.check, connect, hcheck, welcomed]

theorem establish_of_not_greets (h : ∀ r, ¬ Greets e l g r) :
    attempts (e.establish l g).trace = [] ∧ ∃ f, (e.establish l g).result = .error f := by
  have hlookup : l ≠ .found → ∃ f, l.check e.host e.port = .error f := by
    intro hl
    cases l with
    | found => exact absurd rfl hl
    | failed why => exact ⟨_, rfl⟩
    | empty => exact ⟨_, rfl⟩
  by_cases hl : l = .found
  · subst hl
    simp only [establish, Lookup.check]
    cases g with
    | breaksOff why => exact ⟨rfl, _, rfl⟩
    | stalls => exact ⟨rfl, _, rfl⟩
    | shows k next =>
      -- a handshake goes on behind the check of the key, so it may still break off or stall
      cases hcheck : e.pins.check e.host e.port k with
      | error f => simp [connect, hcheck, attempts]
      | ok _ =>
        cases next with
        | ready r => exact absurd ⟨k, rfl, rfl, hcheck⟩ (h r)
        | breaksOff why => simp [connect, hcheck, welcomed, attempts]
        | stalls => simp [connect, hcheck, welcomed, attempts]
  · obtain ⟨f, hf⟩ := hlookup hl
    simp [establish, hf, attempts]

/-- **An attempt follows a look at a key that the pins admit.** -/
theorem attempted_mem_establish {a : Login.Attempt} (h : .attempted a ∈ (e.establish l g).trace) :
    ∃ k r, g = .shows k (.ready r) ∧ e.pins.check e.host e.port k = .ok () ∧
      (e.establish l g).trace = .checked k :: (e.logIn r).trace := by
  by_cases hr : ∃ r, Greets e l g r
  · obtain ⟨r, k, hl, hg, hcheck⟩ := hr
    exact ⟨k, r, hg, hcheck, by rw [establish_of_greets hl hg hcheck]⟩
  · have hnone := (establish_of_not_greets (not_exists.1 hr)).1
    have ha := mem_attempts.2 h
    rw [hnone] at ha
    cases ha

end Establisher

end SshTunnel

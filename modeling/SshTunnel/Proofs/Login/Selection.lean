import Mathlib.Tactic.Common
import SshTunnel.Login.Method

/-!
Which method credentials are good for.  A private key that can be used comes before everything; a password is
taken where there is no such key.
-/

namespace SshTunnel.Login

variable {d : PrivateKey.Decoder} {c : Credentials} {m : Login}

/-- There is a private key, and it can be used. -/
def HasKey (d : PrivateKey.Decoder) (c : Credentials) (k : PrivateKey) : Prop :=
  ∃ text, c.privateKey = some text ∧ PrivateKey.ofText d text c.passphrase = .ok k

/-- The method that credentials are good for. -/
inductive Chosen (d : PrivateKey.Decoder) (c : Credentials) : Login → Prop
  | publicKey {k : PrivateKey} (usable : HasKey d c k) : Chosen d c (.publicKey k)
  | password {text : String} (given : c.password = some text) (keyless : ∀ k, ¬ HasKey d c k) :
    Chosen d c (.password text)

theorem select_of_key {k : PrivateKey} (h : HasKey d c k) : select d c = .ok (.publicKey k) := by
  obtain ⟨text, hgiven, hkey⟩ := h
  simp only [select, hgiven, hkey]

/-- Without a usable key it is the password that is taken, if there is one. -/
theorem select_of_keyless (h : ∀ k, ¬ HasKey d c k) :
    select d c = .ok m ↔ ∃ text, c.password = some text ∧ m = .password text := by
  cases hgiven : c.privateKey with
  | none => cases hp : c.password <;> simp [select, hgiven, hp, eq_comm]
  | some text =>
    cases hkey : PrivateKey.ofText d text c.passphrase with
    | ok k => exact absurd ⟨text, hgiven, hkey⟩ (h k)
    | error e => cases hp : c.password <;> simp [select, hgiven, hkey, hp, eq_comm]

/-- **The method selected is the one that the credentials are good for.** -/
theorem select_eq_ok : select d c = .ok m ↔ Chosen d c m := by
  by_cases hk : ∃ k, HasKey d c k
  · obtain ⟨k, hk⟩ := hk
    rw [select_of_key hk]
    constructor
    · rintro ⟨rfl⟩
      exact .publicKey hk
    · rintro (hk' | ⟨-, hnone⟩)
      · rw [← select_of_key hk', select_of_key hk]
      · exact absurd hk (hnone k)
  · rw [not_exists] at hk
    rw [select_of_keyless hk]
    constructor
    · rintro ⟨text, hp, rfl⟩
      exact .password hp hk
    · rintro (hk' | ⟨hp, -⟩)
      · exact absurd hk' (hk _)
      · exact ⟨_, hp, rfl⟩

end SshTunnel.Login

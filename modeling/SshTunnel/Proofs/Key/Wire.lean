import Mathlib.Tactic.Common
import SshTunnel.Key.Wire
import SshTunnel.Proofs.Bytes.BigEndian

/-!
What the readers of fields read.  Each takes exactly the bytes that its field is written as off the front, so
that a row of readers reads a row of fields; a limit that a length sets is the one thing that can be given in
more than one way.
-/

namespace SshTunnel.Wire

variable {α β : Type} {a : α} {b p rest : Bytes}

/-- A reader gives something from the front of some bytes and leaves the rest. -/
def Reads (r : Reader α) (b : Bytes) (a : α) (rest : Bytes) : Prop := r.run b = .ok (a, rest)

/-! ### Readers one after the other -/

theorem reads_pure {a' : α} : Reads (pure a) b a' rest ↔ a' = a ∧ rest = b := by
  have hrun : (pure a : Reader α).run b = .ok (a, b) := rfl
  rw [Reads, hrun]
  simp [eq_comm]

theorem reads_bind {r : Reader α} {f : α → Reader β} {c : β} :
    Reads (r >>= f) b c rest ↔ ∃ a mid, Reads r b a mid ∧ Reads (f a) mid c rest := by
  simp only [Reads, StateT.run_bind]
  cases h : r.run b with
  | error e => simp [bind, Except.bind]
  | ok p =>
    obtain ⟨a, mid⟩ := p
    simp [bind, Except.bind]

theorem reads_fail : ¬ Reads fail b a rest := by
  simp [Reads, fail, throw, throwThe, MonadExceptOf.throw, StateT.run, StateT.lift, bind, Except.bind]

theorem reads_unknown {label : String} : ¬ Reads (unknown label) b a rest := by
  simp [Reads, unknown, throw, throwThe, MonadExceptOf.throw, StateT.run, StateT.lift, bind, Except.bind]

theorem reads_ite {c : Prop} [Decidable c] {r : Reader α} :
    Reads (if c then r else fail) b a rest ↔ c ∧ Reads r b a rest := by
  by_cases hc : c
  · simp [hc]
  · simp [hc, reads_fail]

/-! ### Strings -/

theorem reads_take {n : Nat} : Reads (take n) b p rest ↔ p.length = n ∧ b = p ++ rest := by
  simp only [Reads, take, StateT.run]
  constructor
  · intro h
    split at h
    · rename_i hn
      obtain ⟨rfl, rfl⟩ := Prod.mk.inj (Except.ok.inj h)
      exact ⟨List.length_take_of_le hn, by simp⟩
    · cases h
  · rintro ⟨rfl, rfl⟩
    simp

theorem reads_length {n : Nat} :
    Reads length b n rest ↔ n ≤ maxLength ∧ b = Bytes.ofNat 4 n ++ rest := by
  simp only [length, nat32, reads_bind, reads_take, reads_ite, reads_pure]
  constructor
  · rintro ⟨_, _, ⟨p, _, ⟨hp, rfl⟩, rfl, rfl⟩, hn, rfl, rfl⟩
    exact ⟨hn, by rw [← hp, Bytes.ofNat_toNat]⟩
  · rintro ⟨hn, rfl⟩
    have hlt : n < 256 ^ 4 := by
      simp only [maxLength] at hn
      omega
    refine ⟨n, rest, ⟨_, rest, ⟨Bytes.length_ofNat 4 n, rfl⟩, ?_, rfl⟩, hn, rfl, rfl⟩
    rw [Bytes.toNat_ofNat, Nat.mod_eq_of_lt hlt]

theorem reads_string : Reads string b p rest ↔ p.length ≤ maxLength ∧ b = putString p ++ rest := by
  simp only [string, reads_bind, reads_length, reads_take, putString, List.append_assoc]
  constructor
  · rintro ⟨n, mid, ⟨hn, rfl⟩, rfl, rfl⟩
    exact ⟨hn, rfl⟩
  · rintro ⟨hn, rfl⟩
    exact ⟨_, _, ⟨hn, rfl⟩, rfl, rfl⟩

theorem reads_integer :
    Reads integer b p rest ↔ (p.length ≤ maxLength ∧ isMinimal p) ∧ b = putString p ++ rest := by
  simp only [integer, reads_bind, reads_string, reads_ite, reads_pure]
  constructor
  · rintro ⟨p', _, ⟨hp, rfl⟩, hm, rfl, rfl⟩
    exact ⟨⟨hp, hm⟩, rfl⟩
  · rintro ⟨⟨hp, hm⟩, rfl⟩
    exact ⟨p, rest, ⟨hp, rfl⟩, hm, rfl, rfl⟩

/-! ### Texts -/

theorem reads_decoded {s : String} :
    Reads (match Text.decode? p with | some s => (pure s : Reader String) | none => fail) b s rest ↔
      p = Text.encode s ∧ rest = b := by
  cases h : Text.decode? p with
  | none =>
    refine ⟨fun hr => absurd hr reads_fail, ?_⟩
    rintro ⟨rfl, -⟩
    rw [Text.decode?_encode] at h
    cases h
  | some t =>
    obtain rfl := Text.decode?_eq_some_iff.1 h
    refine ⟨fun hr => ?_, ?_⟩
    · obtain ⟨rfl, rfl⟩ := reads_pure.1 hr
      exact ⟨rfl, rfl⟩
    · rintro ⟨he, rfl⟩
      have hst : some s = some t := by rw [← Text.decode?_encode, ← Text.decode?_encode, he]
      exact reads_pure.2 ⟨Option.some.inj hst, rfl⟩

theorem reads_text {s : String} :
    Reads text b s rest ↔ (Text.encode s).length ≤ maxLength ∧ b = putString (Text.encode s) ++ rest := by
  simp only [text, reads_bind, reads_string]
  constructor
  · rintro ⟨p, _, ⟨hp, rfl⟩, h⟩
    obtain ⟨rfl, rfl⟩ := reads_decoded.1 h
    exact ⟨hp, rfl⟩
  · rintro ⟨hp, rfl⟩
    exact ⟨_, _, ⟨hp, rfl⟩, reads_decoded.2 ⟨rfl, rfl⟩⟩

theorem reads_label {s : String} :
    Reads label b s rest ↔ (Text.encode s).length ≤ 48 ∧ b = putString (Text.encode s) ++ rest := by
  simp only [label, reads_bind, reads_length]
  constructor
  · rintro ⟨n, mid, ⟨-, rfl⟩, h⟩
    split at h
    · obtain ⟨_, _, hf, -⟩ := reads_bind.1 h
      exact absurd hf reads_fail
    · rename_i hn
      obtain ⟨p, _, hp, hs⟩ := reads_bind.1 h
      obtain ⟨rfl, rfl⟩ := reads_take.1 hp
      obtain ⟨rfl, rfl⟩ := reads_decoded.1 hs
      exact ⟨Nat.le_of_not_lt hn, by rw [putString, List.append_assoc]⟩
  · rintro ⟨hn, rfl⟩
    refine ⟨_, _, ⟨?_, by rw [putString, List.append_assoc]⟩, ?_⟩
    · simp only [maxLength]
      omega
    · rw [if_neg (Nat.not_lt.2 hn)]
      exact reads_bind.2 ⟨_, _, reads_take.2 ⟨rfl, rfl⟩, reads_decoded.2 ⟨rfl, rfl⟩⟩

/-! ### Under a limit -/

/-- The limit may be larger than the field, so the bytes in front of the rest are not known. -/
theorem length_of_reads_fixed {n : Nat} (h : Reads (fixed n) b p rest) : p.length = n := by
  obtain ⟨m, mid, -, h⟩ := reads_bind.1 h
  simp only [Reads, within, StateT.run] at h
  split at h
  · cases h
  · rename_i a left heq
    obtain ⟨rfl, -⟩ := Prod.mk.inj (Except.ok.inj h)
    exact (reads_take.1 heq).1

theorem reads_fixed {n : Nat} (hp : p.length = n) (hn : n ≤ maxLength) (rest : Bytes) :
    Reads (fixed n) (putString p ++ rest) p rest := by
  subst hp
  refine reads_bind.2 ⟨p.length, p ++ rest, reads_length.2 ⟨hn, ?_⟩, ?_⟩
  · rw [putString, List.append_assoc]
  · have htake : Reads (take p.length) p p [] := reads_take.2 ⟨rfl, by simp⟩
    simp only [Reads, StateT.run] at htake
    simp [Reads, within, StateT.run, htake]

end SshTunnel.Wire

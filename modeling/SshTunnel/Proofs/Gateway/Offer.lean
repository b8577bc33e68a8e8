import Mathlib.Tactic.Common
import SshTunnel.Gateway.Session
import SshTunnel.Proofs.Key.Public

/-!
Which kinds of host key a session asks the gateway for.  With keys pinned these are the usual kinds that one of
the pinned keys can sign as, in the usual order.  If there are none the session asks for all the usual kinds, so
that the gateway shows some key; the pins then refuse it.
-/

namespace SshTunnel

/-! ### Keys and kinds -/

/-- The key can sign as a key of this kind: every key as one of its own, an RSA key as each of those for RSA. -/
inductive PublicKey.SignsAs : PublicKey → String → Prop
  | own (k : PublicKey) : SignsAs k k.algorithm
  | rsa (e n : Bytes) {kind : String} (h : kind ∈ Pins.rsaNames) : SignsAs (.rsa e n) kind

/-- The key is of one of the usual sorts: Ed25519, ECDSA on a NIST curve, RSA. -/
def PublicKey.IsUsual : PublicKey → Prop
  | .ed25519 _ | .ecdsa .. | .rsa .. => True
  | .dsa .. | .heldEd25519 .. | .heldEcdsa .. | .named .. => False

namespace Pins

variable {k : PublicKey} {ks : List PublicKey} {kind : String}

theorem answersTo_iff : answersTo k kind ↔ k.SignsAs kind := by
  constructor
  · intro h
    unfold answersTo at h
    split at h
    · exact .rsa _ _ (by simpa using h)
    · obtain rfl : k.algorithm = kind := by simpa using h
      exact .own k
  · rintro (_ | ⟨e, n, h⟩)
    · unfold answersTo
      split
      · simp [PublicKey.algorithm, rsaNames]
      · simp
    · simpa [answersTo] using h

/-- None of the usual kinds has a domain in its name. -/
theorem not_isDomainName_of_preferred : ∀ kind ∈ preferred, PublicKey.isDomainName kind = false := by
  decide

/-- A key can sign as one of the usual kinds exactly if it is of a usual sort. -/
theorem exists_preferred_iff : (∃ kind ∈ preferred, k.SignsAs kind) ↔ k.IsUsual := by
  constructor
  · rintro ⟨kind, hkind, _ | _⟩
    · cases k with
      | ed25519 | ecdsa | rsa => trivial
      | dsa | heldEd25519 | heldEcdsa => simp [PublicKey.algorithm, preferred] at hkind
      | named a b =>
        have hname := not_isDomainName_of_preferred a.text hkind
        rw [a.isName] at hname
        cases hname
    · trivial
  · intro h
    refine ⟨k.algorithm, ?_, .own k⟩
    cases k with
    | ed25519 | rsa => simp [PublicKey.algorithm, preferred]
    | ecdsa c p => cases c <;> simp [PublicKey.algorithm, Curve.Nist.name, preferred]
    | dsa | heldEd25519 | heldEcdsa | named => exact h.elim

/-- The usual kinds that one of the keys can sign as. -/
def kept (ks : List PublicKey) : List String := preferred.filter fun kind => ks.any fun k => answersTo k kind

theorem mem_kept : kind ∈ kept ks ↔ kind ∈ preferred ∧ ∃ k ∈ ks, k.SignsAs kind := by
  simp [kept, answersTo_iff]

theorem kept_eq_nil_iff : kept ks = [] ↔ ∀ k ∈ ks, ¬ k.IsUsual := by
  simp only [List.eq_nil_iff_forall_not_mem, mem_kept, ← exists_preferred_iff]
  constructor
  · rintro h k hk ⟨kind, hkind, hsigns⟩
    exact h kind ⟨hkind, k, hk, hsigns⟩
  · rintro h kind ⟨hkind, k, hk, hsigns⟩
    exact h k hk ⟨kind, hkind, hsigns⟩

end Pins

/-! ### What is asked for -/

namespace Establisher

variable {e : Establisher} {ks : List PublicKey}

open Pins (kept preferred)

theorem offered_of_kept (h : e.pins = .oneOf ks) (hne : kept ks ≠ []) : e.offered = kept ks := by
  unfold offered Pins.algorithms?
  rw [h]
  dsimp only
  split
  · rename_i hnil
    exact absurd hnil hne
  · rfl

theorem offered_of_nothing_kept (h : e.pins = .oneOf ks) (hnil : kept ks = []) : e.offered = preferred := by
  unfold offered Pins.algorithms?
  rw [h]
  dsimp only
  split
  · rfl
  · rename_i hne
    exact (hne hnil).elim

/-- The kinds of host key asked for go by the keys that are pinned. -/
structure GoesBy (ks : List PublicKey) (asked : List String) : Prop where
  ordered : asked.Sublist preferred
  distinct : asked.Nodup
  complete : ∀ kind ∈ preferred, (∃ k ∈ ks, k.SignsAs kind) → kind ∈ asked
  /-- If a key is of a usual sort, no kind is asked for that no key can sign as. -/
  sound : (∃ k ∈ ks, k.IsUsual) → ∀ kind ∈ asked, ∃ k ∈ ks, k.SignsAs kind
  /-- If none is, all the usual kinds are asked for. -/
  unrestricted : (∀ k ∈ ks, ¬ k.IsUsual) → asked = preferred

/-- **A session asks for the kinds that its pins can sign as**, in the usual order, if there are such kinds; and
for all the usual ones otherwise. -/
theorem offered_goesBy (h : e.pins = .oneOf ks) : GoesBy ks e.offered := by
  have hdistinct : preferred.Nodup := by decide
  by_cases hnil : kept ks = []
  · have hnone := Pins.kept_eq_nil_iff.1 hnil
    rw [offered_of_nothing_kept h hnil]
    exact ⟨List.Sublist.refl _, hdistinct, fun kind hkind _ => hkind,
      fun ⟨k, hk, husual⟩ => absurd husual (hnone k hk), fun _ => rfl⟩
  · have hsub : (kept ks).Sublist preferred := List.filter_sublist
    rw [offered_of_kept h hnil]
    exact ⟨hsub, hsub.nodup hdistinct, fun kind hkind hsigns => Pins.mem_kept.2 ⟨hkind, hsigns⟩,
      fun _ kind hkind => (Pins.mem_kept.1 hkind).2, fun hnone => absurd (Pins.kept_eq_nil_iff.2 hnone) hnil⟩

/-- A session with one of the usual keys among its pins, and one that is not. -/
def mixed : Establisher where
  host := "gw"
  port := 22
  user := "u"
  login := .password "p"
  pins := .oneOf [.dsa [1] [1] [1] [1], .rsa [3] [5]]
  limit := 1000

theorem offered_goesBy_mixed :
    mixed.pins = .oneOf [.dsa [1] [1] [1] [1], .rsa [3] [5]] ∧
      GoesBy [.dsa [1] [1] [1] [1], .rsa [3] [5]] mixed.offered ∧
      mixed.offered = ["rsa-sha2-512", "rsa-sha2-256", "ssh-rsa"] :=
  ⟨rfl, offered_goesBy rfl, by decide⟩

/-- With a DSA key as its only pin a session asks for Ed25519 keys, too. -/
theorem offered_beyond_pins :
    (PublicKey.dsa [1] [1] [1] [1]).Legible ∧
      "ssh-ed25519" ∈ ({ mixed with pins := .oneOf [.dsa [1] [1] [1] [1]] } : Establisher).offered ∧
      ¬ ∃ k ∈ [PublicKey.dsa [1] [1] [1] [1]], k.SignsAs "ssh-ed25519" := by
  refine ⟨PublicKey.legible_iff_wellFormed.2 ?_, by decide, ?_⟩
  · simp [PublicKey.WellFormed, PublicKey.IsInteger, Wire.maxLength, Wire.isMinimal]
  · rintro ⟨k, hk, hsigns⟩
    obtain rfl := List.mem_singleton.1 hk
    have hanswers := Pins.answersTo_iff.2 hsigns
    revert hanswers
    decide

end Establisher

end SshTunnel

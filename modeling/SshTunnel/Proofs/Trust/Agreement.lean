import Mathlib.Tactic.Common
import SshTunnel.Proofs.Gateway.Session
import SshTunnel.Proofs.Trust.Lookup
import SshTunnel.Proofs.Trust.Reopening

/-!
The two answers of the trust store about a key.  One goes by what is written, type and text, and the first entry of
the type decides; the other goes by the keys that the texts stand for, and a session accepts just these.  What is
verified is trusted.  What is trusted is verified, but for two cases: the file has other spellings of the key alone,
or another text stands first under its type.
-/

namespace SshTunnel.TrustStore

variable {s : TrustStore} {host : String} {port : UInt16} {k : PublicKey}

/-! ### A session and the store -/

/-- A session that is pinned to trusted keys accepts them and no others. -/
theorem check_trustedKeys (hk : k.Legible) :
    (Pins.oneOf (s.trustedKeys host port)).check host port k = .ok () ↔ k ∈ s.trustedKeys host port := by
  rw [Pins.check_oneOf]
  constructor
  · rintro ⟨t, ht, henc⟩
    obtain rfl := ((legible_of_mem_trustedKeys ht).encode_inj hk).1 henc
    exact ht
  · intro h
    exact ⟨k, h, rfl⟩

/-! ### Spelling -/

/-- The entry gives the key under its own type and in its own base64. -/
def Entry.Spells (e : Entry) (k : PublicKey) : Prop := e.keyType = k.algorithm ∧ e.key = k.base64

instance {e : Entry} : Decidable (e.Spells k) := inferInstanceAs (Decidable (_ ∧ _))

/-- Of the entries for a host and port those of the file give the key, and none spells it. -/
def Misspelled (p : Place) (s : TrustStore) (host : String) (port : UInt16) (k : PublicKey) : Prop :=
  (∃ e ∈ entriesAt p, e ∈ s.entriesFor host port ∧ PublicKey.ofBase64? e.key = some k) ∧
    ∀ e ∈ s.entriesFor host port, ¬ e.Spells k

instance {p : Place} : Decidable (Misspelled p s host port k) := inferInstanceAs (Decidable (_ ∧ _))

/-- The key is trusted, but another text stands first among the entries of its type. -/
def Overtaken (s : TrustStore) (host : String) (port : UInt16) (k : PublicKey) : Prop :=
  k ∈ s.trustedKeys host port ∧
    ∃ e ∈ (s.entriesFor host port).find? fun e => e.keyType = k.algorithm, e.key ≠ k.base64

instance : Decidable (Overtaken s host port k) := inferInstanceAs (Decidable (_ ∧ ∃ e ∈ _, _))

/-- What is added is spelled well, so that only the file can hold other spellings. -/
theorem entryOf_spells (host : String) (port : UInt16) (k : PublicKey) : (entryOf host port k).Spells k := ⟨rfl, rfl⟩

/-- An added entry that gives a key was added for this key. -/
theorem spells_of_entryOf {k' : PublicKey} (hk' : k'.Legible)
    (h : PublicKey.ofBase64? (entryOf host port k').key = some k) : (entryOf host port k').Spells k := by
  rw [entryOf_key, hk'.ofBase64?_base64] at h
  obtain rfl := Option.some.inj h
  exact entryOf_spells host port k'

/-! ### The store and itself -/

/-- A verified key is spelled by the entry that verifies it. -/
theorem exists_spells_of_verified (h : s.verdict host port k = .verified) :
    ∃ e ∈ s.entriesFor host port, e.Spells k := by
  obtain ⟨first, hfind, hkey⟩ := verdict_eq_verified.1 h
  have htype : first.keyType = k.algorithm := by simpa using List.find?_some hfind
  exact ⟨first, List.mem_of_find?_eq_some hfind, htype, hkey⟩

/-- An entry that spells the key verifies it, unless another text stands first. -/
theorem verified_of_spells {e : Entry} (he : e ∈ s.entriesFor host port) (hspells : e.Spells k)
    (hfirst : ∀ e ∈ (s.entriesFor host port).find? fun e => e.keyType = k.algorithm, e.key = k.base64) :
    s.verdict host port k = .verified := by
  cases hfind : (s.entriesFor host port).find? fun e => e.keyType = k.algorithm with
  | none =>
    have hno := List.find?_eq_none.1 hfind e he
    simp [hspells.1] at hno
  | some first => exact verdict_eq_verified.2 ⟨first, hfind, hfirst first hfind⟩

/-- A key that is trusted and not overtaken is verified as soon as some entry spells it. -/
theorem verified_iff_spelled (htrusted : k ∈ s.trustedKeys host port) (h : ¬ Overtaken s host port k) :
    s.verdict host port k = .verified ↔ ∃ e ∈ s.entriesFor host port, e.Spells k := by
  constructor
  · exact exists_spells_of_verified
  · rintro ⟨e, he, hspells⟩
    refine verified_of_spells he hspells fun first hfind => ?_
    by_contra hother
    exact h ⟨htrusted, first, hfind, hother⟩

/-- A trusted key that is not misspelled in the file is spelled by some entry, if only by one that was added. -/
theorem misspelled_iff {p : Place} {adds : List (String × UInt16 × PublicKey)} (hadds : ∀ a ∈ adds, a.2.2.Legible)
    (h : (ofPlace p).addAll adds = .ok s) (htrusted : k ∈ s.trustedKeys host port) :
    Misspelled p s host port k ↔ ¬ ∃ e ∈ s.entriesFor host port, e.Spells k := by
  constructor
  · rintro ⟨-, hno⟩ ⟨e, he, hspells⟩
    exact hno e he hspells
  · intro hno
    obtain ⟨e, he, hkey⟩ := mem_trustedKeys.1 htrusted
    rcases mem_addAll h (mem_entries_of_mem_entriesFor he) with hold | ⟨a, ha, rfl⟩
    · exact ⟨⟨e, hold, he, hkey⟩, fun e he hspells => hno ⟨e, he, hspells⟩⟩
    · exact absurd ⟨_, he, spells_of_entryOf (hadds a ha) hkey⟩ hno

/-- **The answers agree on what is spelled well.**  Verified keys are trusted in any case, and trusted keys are
those that a session accepts; of a key that no other text overtakes the two answers differ only if the file
misspells it. -/
theorem answers_agree (p : Place) (adds : List (String × UInt16 × PublicKey)) (s : TrustStore)
    (host : String) (port : UInt16) (k : PublicKey) (hadds : ∀ a ∈ adds, a.2.2.Legible) (hk : k.Legible)
    (h : (ofPlace p).addAll adds = .ok s) :
    (s.verdict host port k = .verified → k ∈ s.trustedKeys host port) ∧
      (k ∈ s.trustedKeys host port ↔
        (Pins.oneOf (s.trustedKeys host port)).check host port k = .ok ()) ∧
      (¬ Overtaken s host port k →
        ((s.verdict host port k = .verified ↔ k ∈ s.trustedKeys host port) ↔
          ¬ Misspelled p s host port k)) := by
  refine ⟨mem_trustedKeys_of_verified hk, (check_trustedKeys hk).symm, fun hfree => ?_⟩
  by_cases htrusted : k ∈ s.trustedKeys host port
  · rw [verified_iff_spelled htrusted hfree, misspelled_iff hadds h htrusted, not_not]
    simp [htrusted]
  · -- neither answer says yes, and the file does not give the key at all
    have hunverified : s.verdict host port k ≠ .verified := fun hv => htrusted (mem_trustedKeys_of_verified hk hv)
    have hspelled : ¬ Misspelled p s host port k := by
      rintro ⟨⟨e, -, he, hkey⟩, -⟩
      exact htrusted (mem_trustedKeys.2 ⟨e, he, hkey⟩)
    simp [hunverified, htrusted, hspelled]

/-- A line that gives a key under the name of another type. -/
def mislabelled : String := "gw ssh-rsa AAAAC3NzaC1lZDI1NTE5AAAAIAcHBwcHBwcHBwcHBwcHBwcHBwcHBwcHBwcHBwcHBwcH\n"

/-- What adding the key leaves of a file with this line. -/
def relabelled : TrustStore where
  entries := [⟨"gw", "ssh-rsa", "AAAAC3NzaC1lZDI1NTE5AAAAIAcHBwcHBwcHBwcHBwcHBwcHBwcHBwcHBwcHBwcHBwcH"⟩,
    ⟨"gw", "ssh-ed25519", "AAAAC3NzaC1lZDI1NTE5AAAAIAcHBwcHBwcHBwcHBwcHBwcHBwcHBwcHBwcHBwcHBwcH"⟩]
  place := .file (Text.encode (mislabelled ++
    "gw ssh-ed25519 AAAAC3NzaC1lZDI1NTE5AAAAIAcHBwcHBwcHBwcHBwcHBwcHBwcHBwcHBwcHBwcHBwcH\n"))

theorem answers_agree_relabelled :
    (ofPlace (.file (Text.encode mislabelled))).addAll [("GW", 22, .ed25519 (List.replicate 32 7))] =
        .ok relabelled ∧
      (relabelled.verdict "Gw" 22 (.ed25519 (List.replicate 32 7)) = .verified ↔
        .ed25519 (List.replicate 32 7) ∈ relabelled.trustedKeys "Gw" 22) := by
  have hk : (PublicKey.ed25519 (List.replicate 32 7)).Legible :=
    PublicKey.legible_iff_wellFormed.2 (by simp [PublicKey.WellFormed])
  have h : (ofPlace (.file (Text.encode mislabelled))).addAll [("GW", 22, .ed25519 (List.replicate 32 7))] =
      .ok relabelled := by decide +kernel
  have hfree : ¬ Overtaken relabelled "Gw" 22 (.ed25519 (List.replicate 32 7)) := by decide +kernel
  refine ⟨h, ((answers_agree _ _ relabelled "Gw" 22 _ (by simpa using hk) hk h).2.2 hfree).2 ?_⟩
  decide +kernel

/-- The lines of a host before and after its key was changed. -/
def rotated : String :=
  "gw ssh-ed25519 AAAAC3NzaC1lZDI1NTE5AAAAIAcHBwcHBwcHBwcHBwcHBwcHBwcHBwcHBwcHBwcHBwcH\n" ++
    "gw ssh-ed25519 AAAAC3NzaC1lZDI1NTE5AAAAIAgICAgICAgICAgICAgICAgICAgICAgICAgICAgICAgI\n"

/-- Both exceptions occur: a key that the file misspells, and one that an older key overtakes. -/
theorem answers_differ :
    ¬ ((ofPlace (.file (Text.encode mislabelled))).verdict "gw" 22 (.ed25519 (List.replicate 32 7)) = .verified ↔
      .ed25519 (List.replicate 32 7) ∈
        (ofPlace (.file (Text.encode mislabelled))).trustedKeys "gw" 22) ∧
    ¬ ((ofPlace (.file (Text.encode rotated))).verdict "gw" 22 (.ed25519 (List.replicate 32 8)) = .verified ↔
      .ed25519 (List.replicate 32 8) ∈ (ofPlace (.file (Text.encode rotated))).trustedKeys "gw" 22) := by
  constructor
  · decide +kernel
  · decide +kernel

end SshTunnel.TrustStore

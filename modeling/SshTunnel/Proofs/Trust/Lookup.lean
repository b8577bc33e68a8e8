import Mathlib.Tactic.Common
import SshTunnel.Proofs.Key.Public
import SshTunnel.Trust.Store

/-!
Looking up in the trust store.  A host and port have one name of their own; as soon as a key is held under it,
the keys under that name are all that is trusted.
-/

namespace SshTunnel.TrustStore

variable {s : TrustStore} {host : String} {port : UInt16} {k : PublicKey}

/-! ### Entries -/

@[simp] theorem entryOf_name : (entryOf host port k).name = nameOf host port := rfl

@[simp] theorem entryOf_key : (entryOf host port k).key = k.base64 := rfl

theorem mem_named {name : String} {e : Entry} : e ∈ s.named name ↔ e ∈ s.entries ∧ e.name = name := by
  simp [named]

theorem named_append (s : TrustStore) (e : Entry) (p : Place) (name : String) :
    (⟨s.entries ++ [e], p⟩ : TrustStore).named name = s.named name ++ if e.name = name then [e] else [] := by
  simp only [named, List.filter_append, List.filter_cons, List.filter_nil, decide_eq_true_eq]

/-- The entries of the own name of a host and port come before those of the host alone. -/
theorem entriesFor_of_named (h : s.named (nameOf host port) ≠ []) :
    s.entriesFor host port = s.named (nameOf host port) := by
  unfold entriesFor
  split
  · rename_i hnil
    exact absurd hnil h
  · rfl

/-- Only the own name of a host and port and the bare host are looked at. -/
theorem entriesFor_congr {s' : TrustStore} (hown : s'.named (nameOf host port) = s.named (nameOf host port))
    (hhost : s'.named (Text.lower host) = s.named (Text.lower host)) :
    s'.entriesFor host port = s.entriesFor host port := by
  simp only [entriesFor, hown, hhost]

theorem mem_entries_of_mem_entriesFor {e : Entry} (h : e ∈ s.entriesFor host port) : e ∈ s.entries := by
  unfold entriesFor at h
  split at h
  · exact (mem_named.1 h).1
  · exact (mem_named.1 h).1

/-- At port 22 a host is stored under nothing but itself. -/
theorem nameOf_default (host : String) : nameOf host 22 = Text.lower host := by
  simp [nameOf]

/-- Lower case is all that counts of a host. -/
theorem nameOf_congr {host' : String} (h : Text.lower host' = Text.lower host) (port : UInt16) :
    nameOf host' port = nameOf host port := by
  simp only [nameOf, h]

/-! ### Keys -/

theorem mem_trustedKeys :
    k ∈ s.trustedKeys host port ↔ ∃ e ∈ s.entriesFor host port, PublicKey.ofBase64? e.key = some k := by
  simp [trustedKeys]

theorem legible_of_mem_trustedKeys (h : k ∈ s.trustedKeys host port) : k.Legible := by
  obtain ⟨e, -, he⟩ := mem_trustedKeys.1 h
  exact PublicKey.legible_of_ofBase64? he

/-- The keys that are held under one name. -/
def keysNamed (s : TrustStore) (name : String) : List PublicKey :=
  (s.named name).filterMap fun e => PublicKey.ofBase64? e.key

theorem trustedKeys_of_keysNamed (h : s.keysNamed (nameOf host port) ≠ []) :
    s.trustedKeys host port = s.keysNamed (nameOf host port) := by
  have hn : s.named (nameOf host port) ≠ [] := by
    intro hnil
    exact h (by rw [keysNamed, hnil, List.filterMap_nil])
  rw [trustedKeys, entriesFor_of_named hn, keysNamed]

theorem trustedKeys_default (s : TrustStore) (host : String) :
    s.trustedKeys host 22 = s.keysNamed (Text.lower host) := by
  rw [trustedKeys, keysNamed, entriesFor, nameOf_default]
  split
  · rfl
  · rfl

theorem trustedKeys_congr {s' : TrustStore} (h : s'.entriesFor host port = s.entriesFor host port) :
    s'.trustedKeys host port = s.trustedKeys host port := by
  rw [trustedKeys, h, trustedKeys]

theorem keysNamed_of_trustedKeys (h : s.trustedKeys host port = []) : s.keysNamed (nameOf host port) = [] := by
  by_contra hne
  rw [trustedKeys_of_keysNamed hne] at h
  exact hne h

/-- An entry that is added for a key adds this key under its name, and nothing under others. -/
theorem keysNamed_append (hk : k.Legible) (s : TrustStore) (host : String) (port : UInt16) (p : Place)
    (name : String) : (⟨s.entries ++ [entryOf host port k], p⟩ : TrustStore).keysNamed name =
      s.keysNamed name ++ if nameOf host port = name then [k] else [] := by
  rw [keysNamed, named_append, List.filterMap_append, keysNamed, entryOf_name]
  congr 1
  split
  · simp [hk.ofBase64?_base64]
  · rfl

/-! ### Verdicts -/

theorem verdict_eq_verified : s.verdict host port k = .verified ↔
    ∃ e, (s.entriesFor host port).find? (fun e => e.keyType = k.algorithm) = some e ∧ e.key = k.base64 := by
  unfold verdict
  split
  · rename_i e he
    rw [he]
    by_cases hkey : e.key = k.base64
    · simp [hkey]
    · simp [hkey]
  · rename_i hnone
    simp [hnone]

/-- A verified key is a trusted one. -/
theorem mem_trustedKeys_of_verified (hk : k.Legible) (h : s.verdict host port k = .verified) :
    k ∈ s.trustedKeys host port := by
  obtain ⟨e, he, hkey⟩ := verdict_eq_verified.1 h
  exact mem_trustedKeys.2 ⟨e, List.mem_of_find?_eq_some he, by rw [hkey, hk.ofBase64?_base64]⟩

end SshTunnel.TrustStore

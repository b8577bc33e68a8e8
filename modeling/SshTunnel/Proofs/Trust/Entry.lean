import Mathlib.Tactic.Common
import SshTunnel.Proofs.Bytes.Base64
import SshTunnel.Proofs.Text.Lower
import SshTunnel.Proofs.Trust.File

/-!
The entry that is written for a host, a port and a key.  Its three parts are words, its name is in lower case,
and for a host that means one host only in a line it can be read again.
-/

namespace SshTunnel

open Text

/-! ### Names, types and keys are words -/

namespace PublicKey

theorem encode_ne_nil (k : PublicKey) : k.encode ≠ [] := by
  unfold encode Wire.putString Bytes.ofNat
  simp

theorem isWord_base64 (k : PublicKey) : IsWord k.base64.toList := by
  rw [base64, String.toList_ofList]
  exact ⟨Base64.encode_ne_nil k.encode_ne_nil, fun c hc => Base64.isBlank_of_mem_encode hc⟩

/-- No algorithm goes without a name. -/
theorem algorithm_ne_nil (k : PublicKey) : k.algorithm.toList ≠ [] := by
  cases k with
  | named a b =>
    obtain ⟨name, hname⟩ := a
    intro hnil
    obtain rfl : name = "" := String.toList_eq_nil_iff.1 hnil
    exact absurd hname (by decide)
  | _ => simp [algorithm]

end PublicKey

namespace TrustStore

/-- A host that can be found again under its name in a line: one word, not a list of names, and neither a
comment nor hashed. -/
structure Plain (host : String) : Prop where
  word : IsWord host.toList
  one : ',' ∉ host.toList
  noComment : host.toList.head? ≠ some '#'
  notHashed : host.toList.head? ≠ some '|'

theorem isWord_lower {host : String} (h : IsWord host.toList) : IsWord (Text.lower host).toList := by
  unfold Text.lower
  rw [String.toList_ofList]
  refine ⟨lowerFrom_ne_nil h.1, fun c hc => ?_⟩
  by_contra hb
  rw [Bool.not_eq_false] at hb
  have := h.2 c (mem_of_mem_lowerFrom (mem_markPoints_of_isBlank hb) hc)
  rw [hb] at this
  exact absurd this (by decide)

theorem comma_notMem_lower {host : String} (h : ',' ∉ host.toList) : ',' ∉ (Text.lower host).toList := by
  rw [Text.lower, String.toList_ofList]
  exact fun hc => h (mem_of_mem_lowerFrom (by decide) hc)

/-- The digits of a port. -/
theorem isDigit_of_mem_port {port : UInt16} {c : Char} (hc : c ∈ (toString port.toNat).toList) :
    48 ≤ c.toNat ∧ c.toNat ≤ 57 := by
  have h : c.isDigit := by
    rw [Nat.toString_eq_ofList_toDigits, String.toList_ofList] at hc
    exact Nat.isDigit_of_mem_toDigits (by decide) (by decide) hc
  simpa [Char.isDigit, UInt32.le_iff_toNat_le] using h

/-- The characters of a name with a port. -/
theorem mem_nameOf {host : String} {port : UInt16} {c : Char} (hc : c ∈ (nameOf host port).toList) :
    c ∈ (Text.lower host).toList ∨ c ∈ ['[', ']', ':'] ∨ 48 ≤ c.toNat ∧ c.toNat ≤ 57 := by
  unfold nameOf at hc
  dsimp only at hc
  split at hc
  · exact Or.inl hc
  · simp only [String.toList_append, List.mem_append] at hc
    rcases hc with ((h | h) | h) | h
    · exact Or.inr (Or.inl (by revert h; simp; tauto))
    · exact Or.inl h
    · exact Or.inr (Or.inl (by revert h; simp; tauto))
    · exact Or.inr (Or.inr (isDigit_of_mem_port h))

theorem lower_nameOf (host : String) (port : UInt16) : Text.lower (nameOf host port) = nameOf host port := by
  have h : ∀ c ∈ (nameOf host port).toList, Settled c := by
    intro c hc
    rcases mem_nameOf hc with h | h | h
    · rw [Text.lower, String.toList_ofList] at h
      exact settled_of_mem_lowerFrom h
    · simp only [List.mem_cons, List.not_mem_nil, or_false] at h
      rcases h with rfl | rfl | rfl <;> exact settled_of_ascii (by decide) (by decide)
    · exact settled_of_ascii (by omega) (by omega)
  rw [Text.lower, lowerFrom_of_settled h, String.ofList_toList]

/-- Behind another port than 22, a name is the host in brackets and the port. -/
theorem nameOf_toList {host : String} {port : UInt16} (hp : port ≠ 22) : (nameOf host port).toList =
    '[' :: (Text.lower host).toList ++ [']'] ++ ':' :: (toString port.toNat).toList := by
  simp [nameOf, hp]

theorem isWord_nameOf {host : String} (h : IsWord host.toList) (port : UInt16) :
    IsWord (nameOf host port).toList := by
  by_cases hp : port = 22
  · simpa [nameOf, hp] using isWord_lower h
  · refine ⟨by simp [nameOf_toList hp], fun c hc => ?_⟩
    rcases mem_nameOf hc with hl | hb | hd
    · exact (isWord_lower h).2 c hl
    · simp only [List.mem_cons, List.not_mem_nil, or_false] at hb
      rcases hb with rfl | rfl | rfl <;> decide
    · rw [← Bool.not_eq_true]
      simp only [isBlank, Bool.or_eq_true, Bool.and_eq_true, decide_eq_true_eq, beq_iff_eq]
      omega

theorem comma_notMem_nameOf {host : String} (h : ',' ∉ host.toList) (port : UInt16) :
    ',' ∉ (nameOf host port).toList := by
  intro hc
  rcases mem_nameOf hc with hl | hb | hd
  · exact comma_notMem_lower h hl
  · exact absurd hb (by decide)
  · exact absurd hd (by decide)

/-- A mark that a name begins with is one that the host begins with. -/
theorem head?_of_head?_nameOf {host : String} {port : UInt16} {d : Char} (hd : d.toNat ∈ markPoints)
    (h : (nameOf host port).toList.head? = some d) : host.toList.head? = some d := by
  by_cases hp : port = 22
  · have hl : (Text.lower host).toList.head? = some d := by simpa [nameOf, hp] using h
    rw [Text.lower, String.toList_ofList] at hl
    exact head?_of_head?_lowerFrom hd hl
  · obtain rfl : '[' = d := by simpa [nameOf_toList hp] using h
    exact absurd hd (by decide)

/-- **What is added for a plain host can be read again.** -/
theorem entryOf_writable {host : String} (hh : Plain host) (port : UInt16) {k : PublicKey}
    (hk : ∀ c ∈ k.algorithm.toList, isBlank c = false) : (entryOf host port k).Writable where
  name := isWord_nameOf hh.word port
  keyType := ⟨k.algorithm_ne_nil, hk⟩
  key := k.isWord_base64
  one := comma_notMem_nameOf hh.one port
  noComment := fun h => hh.noComment (head?_of_head?_nameOf (by decide) h)
  notHashed := fun h => hh.notHashed (head?_of_head?_nameOf (by decide) h)
  lower := lower_nameOf host port

end TrustStore

end SshTunnel

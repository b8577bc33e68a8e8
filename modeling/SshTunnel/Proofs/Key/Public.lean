import Mathlib.Tactic.Common
import SshTunnel.Key.Public
import SshTunnel.Proofs.Bytes.Base64
import SshTunnel.Proofs.Key.Wire

/-!
Public keys there and back.  A key that some bytes are read as is read again from its own encoding and from its
base64, so that two such keys with one encoding are one key.
-/

namespace SshTunnel.PublicKey

open Wire

/-! ### Fields of keys -/

/-- A whole number in a key. -/
def IsInteger (b : Bytes) : Prop := b.length ≤ maxLength ∧ isMinimal b

/-- What a key that is held by a security key is for: a text. -/
def IsApplication (b : Bytes) : Prop := b.length ≤ maxLength ∧ ∃ s, Text.encode s = b

/-- The names with a domain that stand for keys with fields of their own. -/
def heldNames : List String := ["sk-ssh-ed25519@openssh.com", "sk-ecdsa-sha2-nistp256@openssh.com"]

/-- The fields are such as are read. -/
def WellFormed : PublicKey → Prop
  | rsa e n => IsInteger e ∧ IsInteger n
  | dsa p q g y => IsInteger p ∧ IsInteger q ∧ IsInteger g ∧ IsInteger y
  | ecdsa c p => p.length ≤ maxLength ∧ c.isPoint p
  | ed25519 p => p.length = 32
  | heldEd25519 p a => p.length = 32 ∧ IsApplication a
  | heldEcdsa p a => (p.length ≤ maxLength ∧ Curve.Nist.p256.isAnyPoint p) ∧ IsApplication a
  | named a b => ((Text.encode a.text).length ≤ 48 ∧ a.text ∉ heldNames) ∧ b.length ≤ maxLength

variable {b p rest : Bytes} {k : PublicKey}

theorem reads_application {a : Bytes} :
    Reads readApplication b a rest ↔ IsApplication a ∧ b = putString a ++ rest := by
  simp only [readApplication, reads_bind, reads_text, reads_pure, IsApplication]
  constructor
  · rintro ⟨s, _, ⟨hs, rfl⟩, rfl, rfl⟩
    exact ⟨⟨hs, s, rfl⟩, rfl⟩
  · rintro ⟨⟨hs, s, rfl⟩, rfl⟩
    exact ⟨s, rest, ⟨hs, rfl⟩, rfl, rfl⟩

/-! ### Points -/

theorem ofName?_name (c : Curve.Nist) : Curve.Nist.ofName? c.name = some c := by
  cases c <;> rfl

theorem name_of_ofName? {name : String} {c : Curve.Nist} (h : Curve.Nist.ofName? name = some c) :
    c.name = name := by
  simpa using List.find?_some h

theorem length_name (c : Curve.Nist) : (Text.encode c.name).length ≤ 48 := by
  cases c <;> decide +kernel

theorem reads_point {c : Curve.Nist} :
    Reads readPoint b (c, p) rest ↔ (p.length ≤ maxLength ∧ c.isPoint p) ∧
      b = putString (Text.encode c.name) ++ (putString p ++ rest) := by
  simp only [readPoint, reads_bind, reads_label]
  constructor
  · rintro ⟨name, _, ⟨-, rfl⟩, h⟩
    split at h
    · exact absurd h reads_unknown
    · rename_i c' hc
      simp only [reads_bind, reads_string, reads_ite, reads_pure] at h
      obtain ⟨p', _, ⟨hp, rfl⟩, hpoint, hcp, rfl⟩ := h
      obtain ⟨rfl, rfl⟩ := Prod.mk.inj hcp
      exact ⟨⟨hp, hpoint⟩, by rw [name_of_ofName? hc]⟩
  · rintro ⟨⟨hp, hpoint⟩, rfl⟩
    refine ⟨c.name, _, ⟨length_name c, rfl⟩, ?_⟩
    rw [ofName?_name]
    simp only [reads_bind, reads_string, reads_ite, reads_pure]
    exact ⟨p, rest, ⟨hp, rfl⟩, hpoint, rfl, rfl⟩

theorem reads_heldPoint :
    Reads readHeldPoint b p rest ↔ (p.length ≤ maxLength ∧ Curve.Nist.p256.isAnyPoint p) ∧
      b = putString (Text.encode Curve.Nist.p256.name) ++ (putString p ++ rest) := by
  simp only [readHeldPoint, reads_bind, reads_label]
  constructor
  · rintro ⟨name, _, ⟨-, rfl⟩, h⟩
    split at h
    · exact absurd h reads_unknown
    · rename_i hc
      simp only [reads_bind, reads_string, reads_ite, reads_pure] at h
      obtain ⟨p', _, ⟨hp, rfl⟩, hpoint, rfl, rfl⟩ := h
      exact ⟨⟨hp, hpoint⟩, by rw [name_of_ofName? hc]⟩
    · exact absurd h reads_fail
  · rintro ⟨⟨hp, hpoint⟩, rfl⟩
    refine ⟨_, _, ⟨length_name .p256, rfl⟩, ?_⟩
    rw [ofName?_name]
    simp only [reads_bind, reads_string, reads_ite, reads_pure]
    exact ⟨p, rest, ⟨hp, rfl⟩, hpoint, rfl, rfl⟩

/-! ### Keys that were read -/

theorem wellFormed_of_readFields {name : String} (hname : (Text.encode name).length ≤ 48)
    (h : Reads (readFields name) b k rest) : k.WellFormed := by
  unfold readFields at h
  -- a case for each name, in the order of the reader
  split at h
  iterate 3
    simp only [reads_bind, reads_integer, reads_pure] at h
    obtain ⟨e, _, ⟨he, -⟩, n, _, ⟨hn, -⟩, rfl, -⟩ := h
    exact ⟨he, hn⟩
  · simp only [reads_bind, reads_integer, reads_pure] at h
    obtain ⟨p, _, ⟨hp, -⟩, q, _, ⟨hq, -⟩, g, _, ⟨hg, -⟩, y, _, ⟨hy, -⟩, rfl, -⟩ := h
    exact ⟨hp, hq, hg, hy⟩
  · simp only [reads_bind, reads_pure] at h
    obtain ⟨p, _, hp, rfl, -⟩ := h
    exact length_of_reads_fixed hp
  iterate 3
    obtain ⟨⟨c, p⟩, _, hp, h⟩ := reads_bind.1 h
    obtain ⟨rfl, -⟩ := reads_pure.1 (reads_ite.1 h).2
    exact (reads_point.1 hp).1
  · simp only [reads_bind, reads_application, reads_pure] at h
    obtain ⟨p, _, hp, a, _, ⟨ha, -⟩, rfl, -⟩ := h
    exact ⟨length_of_reads_fixed hp, ha⟩
  · simp only [reads_bind, reads_heldPoint, reads_application, reads_pure] at h
    obtain ⟨p, _, ⟨hp, -⟩, a, _, ⟨ha, -⟩, rfl, -⟩ := h
    exact ⟨hp, ha⟩
  · rename_i hheld hheld'
    split at h
    · simp only [reads_bind, reads_string, reads_pure] at h
      obtain ⟨body, _, ⟨hbody, -⟩, rfl, -⟩ := h
      exact ⟨⟨hname, by simpa [heldNames] using ⟨hheld, hheld'⟩⟩, hbody⟩
    · exact absurd h reads_unknown

theorem wellFormed_of_read (h : Reads read b k rest) : k.WellFormed := by
  obtain ⟨name, mid, hname, h⟩ := reads_bind.1 h
  exact wellFormed_of_readFields (reads_label.1 hname).1 h

/-! ### Keys that are read again -/

theorem length_algorithm (h : k.WellFormed) : (Text.encode k.algorithm).length ≤ 48 := by
  cases k with
  | ecdsa c p => cases c <;> (simp only [algorithm, Curve.Nist.name]; decide +kernel)
  | named a b => exact h.1.1
  | _ => simp only [algorithm]; decide +kernel

theorem reads_of_fields {body : Bytes} (h : k.WellFormed)
    (hk : k.encode = putString (Text.encode k.algorithm) ++ body)
    (hbody : Reads (readFields k.algorithm) (body ++ rest) k rest) :
    Reads read (k.encode ++ rest) k rest :=
  reads_bind.2 ⟨k.algorithm, body ++ rest,
    reads_label.2 ⟨length_algorithm h, by rw [hk, List.append_assoc]⟩, hbody⟩

/-- A name with a domain is none of the other names. -/
theorem readFields_domainName {a : DomainName} (ha : a.text ∉ heldNames) :
    readFields a.text = do return named a (← Wire.string) := by
  have hname := a.isName
  unfold readFields
  split
  iterate 8
    rename_i heq
    rw [heq] at hname
    exact absurd hname (by decide)
  iterate 2
    rename_i heq
    exact absurd (by simp [heldNames, heq]) ha
  · rw [dif_pos hname]

theorem reads_encode (h : k.WellFormed) (rest : Bytes) : Reads read (k.encode ++ rest) k rest := by
  cases k with
  | rsa e n =>
    refine reads_of_fields h rfl ?_
    simp only [algorithm, readFields, reads_bind, reads_integer, reads_pure, List.append_assoc]
    exact ⟨e, _, ⟨h.1, rfl⟩, n, _, ⟨h.2, rfl⟩, rfl, rfl⟩
  | dsa p q g y =>
    obtain ⟨hp, hq, hg, hy⟩ := h
    refine reads_of_fields ⟨hp, hq, hg, hy⟩ rfl ?_
    simp only [algorithm, readFields, reads_bind, reads_integer, reads_pure, List.append_assoc]
    exact ⟨p, _, ⟨hp, rfl⟩, q, _, ⟨hq, rfl⟩, g, _, ⟨hg, rfl⟩, y, _, ⟨hy, rfl⟩, rfl, rfl⟩
  | ecdsa c p =>
    refine reads_of_fields h rfl ?_
    have hpoint : Reads readPoint (putString (Text.encode c.name) ++ putString p ++ rest) (c, p) rest := by
      rw [List.append_assoc]
      exact reads_point.2 ⟨h, rfl⟩
    -- each curve has a name of its own among those that are looked at
    cases c <;> exact reads_bind.2 ⟨_, rest, hpoint, reads_ite.2 ⟨rfl, reads_pure.2 ⟨rfl, rfl⟩⟩⟩
  | ed25519 p =>
    refine reads_of_fields h rfl ?_
    exact reads_bind.2 ⟨p, rest, reads_fixed h (by decide) rest, reads_pure.2 ⟨rfl, rfl⟩⟩
  | heldEd25519 p a =>
    refine reads_of_fields h rfl ?_
    simp only [algorithm, readFields, reads_bind, reads_application, reads_pure, List.append_assoc]
    exact ⟨p, _, reads_fixed h.1 (by decide) _, a, _, ⟨h.2, rfl⟩, rfl, rfl⟩
  | heldEcdsa p a =>
    refine reads_of_fields h rfl ?_
    simp only [algorithm, readFields, reads_bind, reads_heldPoint, reads_application, reads_pure,
      List.append_assoc]
    exact ⟨p, _, ⟨h.1, rfl⟩, a, _, ⟨h.2, rfl⟩, rfl, rfl⟩
  | named a b =>
    refine reads_of_fields h rfl ?_
    rw [algorithm, readFields_domainName h.1.2]
    exact reads_bind.2 ⟨b, rest, reads_string.2 ⟨h.2, rfl⟩, reads_pure.2 ⟨rfl, rfl⟩⟩

/-! ### There and back -/

theorem decode?_eq_some : decode? b = some k ↔ ∃ rest, Reads read b k rest := by
  unfold decode? Reads
  cases h : read.run b with
  | error f => simp [Except.toOption]
  | ok p =>
    obtain ⟨k', rest⟩ := p
    simp [Except.toOption]

theorem legible_iff_wellFormed : k.Legible ↔ k.WellFormed := by
  constructor
  · rintro ⟨b, hb⟩
    obtain ⟨rest, h⟩ := decode?_eq_some.1 hb
    exact wellFormed_of_read h
  · intro h
    exact ⟨k.encode ++ [], decode?_eq_some.2 ⟨[], reads_encode h []⟩⟩

/-- **A key is read again from its encoding.** -/
theorem Legible.decode?_encode (h : k.Legible) : decode? k.encode = some k := by
  have hreads := reads_encode (legible_iff_wellFormed.1 h) []
  rw [List.append_nil] at hreads
  exact decode?_eq_some.2 ⟨[], hreads⟩

theorem Legible.ofBase64?_base64 (h : k.Legible) : ofBase64? k.base64 = some k := by
  rw [ofBase64?, base64, String.toList_ofList, Base64.decodeGroups?_encode, Option.bind_some,
    h.decode?_encode]

theorem legible_of_ofBase64? {s : String} (h : ofBase64? s = some k) : k.Legible := by
  obtain ⟨b, -, hb⟩ := Option.bind_eq_some_iff.1 h
  exact ⟨b, hb⟩

theorem Legible.encode_inj {k' : PublicKey} (h : k.Legible) (h' : k'.Legible) :
    k.encode = k'.encode ↔ k = k' := by
  refine ⟨fun he => ?_, fun he => he ▸ rfl⟩
  have hk := h.decode?_encode
  rw [he, h'.decode?_encode] at hk
  exact (Option.some.inj hk).symm

end SshTunnel.PublicKey

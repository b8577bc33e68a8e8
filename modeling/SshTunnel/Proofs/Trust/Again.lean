import Mathlib.Tactic.Common
import SshTunnel.Proofs.Trust.Lookup
import SshTunnel.Proofs.Trust.Saving

/-!
Adding a key again.  The file stays as it is exactly if the key is verified, that is, if it is the first of its
type under the name that is looked at.  Other keys that are added come behind it; but the first one under the
own name of a host and port puts an end to what was known of the bare host.
-/

namespace SshTunnel.TrustStore

open Text

variable {s s' : TrustStore} {host name : String} {port : UInt16} {k : PublicKey} {a : Attempt}

/-! ### The first of a type -/

/-- The first entry of a key type under one name. -/
def firstOf (s : TrustStore) (name keyType : String) : Option Entry :=
  (s.named name).find? fun e => e.keyType = keyType

/-- Later entries come behind. -/
theorem firstOf_of_entries {es : List Entry} (h : s'.entries = s.entries ++ es) (name keyType : String) :
    s'.firstOf name keyType = (s.firstOf name keyType).or
      ((es.filter fun e => e.name = name).find? fun e => e.keyType = keyType) := by
  rw [firstOf, named, h, List.filter_append, List.find?_append]
  rfl

/-- A key stands under a name before all others of its type. -/
def Leads (s : TrustStore) (name : String) (k : PublicKey) : Prop :=
  ∃ e ∈ s.firstOf name k.algorithm, e.key = k.base64

/-- Another key of the type stands first under a name. -/
def Shadowed (s : TrustStore) (name : String) (k : PublicKey) : Prop :=
  ∃ e ∈ s.firstOf name k.algorithm, e.key ≠ k.base64

instance (s : TrustStore) (name : String) (k : PublicKey) : Decidable (s.Shadowed name k) :=
  inferInstanceAs (Decidable (∃ e ∈ _, _))

theorem Leads.named_ne_nil (h : s.Leads name k) : s.named name ≠ [] := by
  rintro hnil
  obtain ⟨e, he, -⟩ := h
  rw [firstOf, hnil] at he
  cases he

theorem verified_of_named (h : s.named (nameOf host port) ≠ []) :
    s.verdict host port k = .verified ↔ s.Leads (nameOf host port) k := by
  rw [verdict_eq_verified, entriesFor_of_named h]
  rfl

/-- Where the own name has no entry, the bare host decides. -/
theorem verified_of_not_named (h : s.named (nameOf host port) = []) :
    s.verdict host port k = .verified ↔ s.Leads (lower host) k := by
  rw [verdict_eq_verified, entriesFor, h]
  rfl

/-! ### What other keys change -/

/-- A store has come to hold more, but not this key. -/
def Adds (k : PublicKey) (s s' : TrustStore) : Prop :=
  ∃ es, s'.entries = s.entries ++ es ∧ ∀ e ∈ es, e.key ≠ k.base64

theorem Adds.refl (k : PublicKey) (s : TrustStore) : Adds k s s := ⟨[], by simp, by simp⟩

theorem Adds.trans {s'' : TrustStore} (h : Adds k s s') (h' : Adds k s' s'') : Adds k s s'' := by
  obtain ⟨es, hes, hother⟩ := h
  obtain ⟨es', hes', hother'⟩ := h'
  refine ⟨es ++ es', by rw [hes', hes, List.append_assoc], fun e he => ?_⟩
  rcases List.mem_append.1 he with he | he
  · exact hother e he
  · exact hother' e he

theorem Ends.adds {r : EStateM.Result Failure TrustStore Unit} (h : Ends s a r)
    (hother : a.key.base64 ≠ k.base64) : Adds k s (left r) := by
  cases h with
  | known hv => exact Adds.refl k s
  | refused f => exact Adds.refl k s
  | written =>
    refine ⟨[a.entry], rfl, fun e he => ?_⟩
    rw [List.mem_singleton.1 he]
    exact hother

/-- Attempts for other keys do not bring this one. -/
theorem adds_afterAttempts : ∀ (as : List Attempt) (_ : ∀ b ∈ as, b.key.base64 ≠ k.base64) (s : TrustStore),
    Adds k s (s.afterAttempts as)
  | [], _, s => Adds.refl k s
  | b :: as, h, s => by
    have hb : b.key.base64 ≠ k.base64 := h b (List.mem_cons_self ..)
    have hstep : Adds k s (left (s.attempt b)) := (ends_attempt s b).adds hb
    exact hstep.trans (adds_afterAttempts as (fun c hc => h c (List.mem_cons_of_mem _ hc)) _)

/-- What comes later comes behind. -/
theorem Adds.leads (h : Adds k s s') (hl : s.Leads name k) : s'.Leads name k := by
  obtain ⟨es, hes, -⟩ := h
  obtain ⟨e, he, hkey⟩ := hl
  refine ⟨e, ?_, hkey⟩
  rw [firstOf_of_entries hes]
  exact Option.or_eq_some_iff.2 (Or.inl he)

theorem Adds.named_ne_nil (h : Adds k s s') (hn : s.named name ≠ []) : s'.named name ≠ [] := by
  obtain ⟨es, hes, -⟩ := h
  rw [named, hes, List.filter_append]
  exact List.append_ne_nil_of_left_ne_nil hn _

/-- A name that had no entry has none of this key later on. -/
theorem Adds.not_leads (h : Adds k s s') (hn : s.named name = []) : ¬ s'.Leads name k := by
  obtain ⟨es, hes, hother⟩ := h
  rintro ⟨e, he, hkey⟩
  have hmem : e ∈ s'.named name := List.mem_of_find?_eq_some he
  rw [named, hes, List.filter_append] at hmem
  rcases List.mem_append.1 hmem with hold | hnew
  · rw [named] at hn
    rw [hn] at hold
    cases hold
  · exact hother e (List.mem_filter.1 hnew).1 hkey

/-! ### Once and again -/

theorem appended_ne (content : Bytes) (line : String) : appended content line ≠ content := by
  intro h
  have hlen := congrArg List.length h
  simp [appended] at hlen

/-- An attempt goes well without a change to the file for verified keys, and for no others. -/
theorem leaves_file_iff : (∃ s', s.attempt a = .ok () s' ∧ s'.place = s.place) ↔
    s.verdict a.host a.port a.key = .verified := by
  constructor
  · rintro ⟨s', h, hplace⟩
    have hends := ends_attempt s a
    rw [h] at hends
    cases hends with
    | known hv => exact hv
    | written =>
      -- something was written, so that the file cannot be the same
      exact absurd (congrArg Place.content hplace) (appended_ne _ a.entry.line)
  · intro hv
    exact ⟨s, attempt_of_verified hv, rfl⟩

/-- Where an attempt went well, the key leads under the own name, unless another one did before; or the bare host
vouches for it, and nothing stands under the own name. -/
theorem leads_of_attempt (h : s.attempt a = .ok () s') (hfree : ¬ s.Shadowed (nameOf a.host a.port) a.key) :
    s'.Leads (nameOf a.host a.port) a.key ∨
      s'.named (nameOf a.host a.port) = [] ∧ s'.Leads (lower a.host) a.key := by
  have hends := ends_attempt s a
  rw [h] at hends
  cases hends with
  | known hv =>
    by_cases hn : s.named (nameOf a.host a.port) = []
    · exact Or.inr ⟨hn, (verified_of_not_named hn).1 hv⟩
    · exact Or.inl ((verified_of_named hn).1 hv)
  | written =>
    left
    -- the new line stands last: it leads if nothing of its type stood there before
    cases hf : s.firstOf (nameOf a.host a.port) a.key.algorithm with
    | none =>
      refine ⟨a.entry, ?_, rfl⟩
      rw [firstOf_of_entries rfl, hf]
      simp [Attempt.entry, entryOf]
    | some e =>
      refine ⟨e, ?_, ?_⟩
      · rw [firstOf_of_entries rfl, hf]
        rfl
      · by_contra hne
        exact hfree ⟨e, hf, hne⟩

/-- The own name of a host and port had no entry and has one now, so that the bare host is not asked any more. -/
def Displaced (s s' : TrustStore) (host : String) (port : UInt16) : Prop :=
  s.named (nameOf host port) = [] ∧ s'.named (nameOf host port) ≠ []

instance (s s' : TrustStore) (host : String) (port : UInt16) : Decidable (s.Displaced s' host port) :=
  inferInstanceAs (Decidable (_ ∧ _))

/-- **A key that was added once is added again without a change to the file**, whatever other keys came before or
between, unless one of them took the place of the bare host that alone knew the key.  Nothing is said of keys
that another one of their type stands before. -/
theorem attempt_again (p : Place) (before between : List Attempt) (a : Attempt) (refusal : Option SystemError)
    (s : TrustStore) (h : ((ofPlace p).afterAttempts before).attempt a = .ok () s)
    (hfree : ¬ ((ofPlace p).afterAttempts before).Shadowed (nameOf a.host a.port) a.key)
    (hother : ∀ b ∈ between, b.key.base64 ≠ a.key.base64) :
    (∃ s', (s.afterAttempts between).attempt { a with refusal } = .ok () s' ∧
      s'.place = (s.afterAttempts between).place) ↔
        ¬ s.Displaced (s.afterAttempts between) a.host a.port := by
  have hadds : Adds a.key s (s.afterAttempts between) := adds_afterAttempts between hother s
  rw [leaves_file_iff]
  constructor
  · rintro hv ⟨hnil, hne⟩
    exact hadds.not_leads hnil ((verified_of_named hne).1 hv)
  · intro hkept
    rcases leads_of_attempt h hfree with hown | ⟨hnil, hhost⟩
    · exact (verified_of_named (hadds.named_ne_nil hown.named_ne_nil)).2 (hadds.leads hown)
    · have hnil' : (s.afterAttempts between).named (nameOf a.host a.port) = [] := by
        by_contra hne
        exact hkept ⟨hnil, hne⟩
      exact (verified_of_not_named hnil').2 (hadds.leads hhost)

/-- Another key of the type comes in between, and the system would refuse the file by then. -/
theorem attempt_again_other_between :
    ∃ s s', ((ofPlace (.file (encode "gw ssh-rsa AAAA"))).afterAttempts
        [⟨"GW", 22, .dsa [1] [2] [3] [4], none⟩]).attempt ⟨"gw", 22, .ed25519 (List.replicate 32 7), none⟩ =
          .ok () s ∧
      (s.afterAttempts [⟨"gw", 22, .ed25519 (List.replicate 32 8), none⟩]).attempt
        ⟨"gw", 22, .ed25519 (List.replicate 32 7), some (.code 13)⟩ = .ok () s' ∧
      s'.place = (s.afterAttempts [⟨"gw", 22, .ed25519 (List.replicate 32 8), none⟩]).place := by
  have h := attempt_again (.file (encode "gw ssh-rsa AAAA")) [⟨"GW", 22, .dsa [1] [2] [3] [4], none⟩]
    [⟨"gw", 22, .ed25519 (List.replicate 32 8), none⟩] ⟨"gw", 22, .ed25519 (List.replicate 32 7), none⟩
    (some (.code 13)) _ rfl (by decide +kernel) (by decide +kernel)
  obtain ⟨s', hs', hplace⟩ := h.2 (by decide +kernel)
  exact ⟨_, s', rfl, hs', hplace⟩

/-- The bare host alone knows the key, and another key is added under the own name in between. -/
theorem attempt_again_displaced :
    ∃ s s' s'', (ofPlace (.file (encode
        ("gw ssh-ed25519 " ++ (PublicKey.ed25519 (List.replicate 32 7)).base64 ++ "\n")))).attempt
          ⟨"gw", 2222, .ed25519 (List.replicate 32 7), none⟩ = .ok () s ∧
      s.attempt ⟨"gw", 2222, .ed25519 (List.replicate 32 8), none⟩ = .ok () s' ∧
      s'.attempt ⟨"gw", 2222, .ed25519 (List.replicate 32 7), none⟩ = .ok () s'' ∧ s''.place ≠ s'.place := by
  refine ⟨_, _, _, rfl, rfl, rfl, ?_⟩
  decide +kernel

end SshTunnel.TrustStore

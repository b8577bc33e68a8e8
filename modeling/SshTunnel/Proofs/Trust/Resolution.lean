import Mathlib.Tactic.Common
import SshTunnel.Proofs.Trust.Lookup
import SshTunnel.Proofs.Trust.Reopening
import SshTunnel.Trust.Resolution

/-!
The three ways in which a host key is settled.  Which one is taken depends on the trust store and on whether
there is an operator's file; each of the last two succeeds under one condition, and with one key.  This key is
all that a resolution ever adds to the store.
-/

namespace SshTunnel.Resolution

variable {w : World} {s : TrustStore} {host : String} {port : UInt16}

/-! ### Which way is taken -/

theorem resolve_of_stored (h : s.trustedKeys host port ≠ []) :
    resolve w s host port = ⟨.ok ⟨s.trustedKeys host port, .store⟩, s, []⟩ := by
  unfold resolve
  split
  · rename_i hnil
    exact absurd hnil h
  · rfl

theorem resolve_of_operator {o : Operator} (h : s.trustedKeys host port = []) (ho : w.operator = some o) :
    resolve w s host port = fromFile o s host port := by
  simp only [resolve, h, ho]

theorem resolve_of_no_operator (h : s.trustedKeys host port = []) (ho : w.operator = none) :
    resolve w s host port = fromGateway w s host port := by
  simp only [resolve, h, ho]

/-! ### Saving -/

/-- Saving a key does nothing, or puts one entry for it behind those in memory and in the file. -/
theorem persist_cases (s : TrustStore) (host : String) (port : UInt16) (k : PublicKey) :
    persist s host port k = (s, []) ∨
      persist s host port k = (⟨s.entries ++ [TrustStore.entryOf host port k],
          .file (TrustStore.appended s.place.content (TrustStore.entryOf host port k).line)⟩,
        [.saved (TrustStore.entryOf host port k)]) := by
  unfold persist
  cases ha : s.add host port k with
  | error f => exact Or.inl rfl
  | ok s' =>
    rcases TrustStore.add_ok ha with ⟨-, rfl⟩ | rfl
    · exact Or.inl (by simp)
    · refine Or.inr ?_
      have hne : (⟨s.entries ++ [TrustStore.entryOf host port k],
          .file (TrustStore.appended s.place.content (TrustStore.entryOf host port k).line)⟩ : TrustStore) ≠ s := by
        intro h
        have := congrArg (fun s : TrustStore => s.entries.length) h
        simp at this
      simp only [if_neg hne]

theorem persist_trace {k : PublicKey} {e : Event} (he : e ∈ (persist s host port k).2) :
    e = .saved (TrustStore.entryOf host port k) := by
  rcases persist_cases s host port k with hp | hp
  · rw [hp] at he
    cases he
  · rw [hp] at he
    exact List.mem_singleton.1 he

theorem asked_notMem_persist {k : PublicKey} {q : Question} : .asked q ∉ (persist s host port k).2 := by
  intro h
  exact absurd (persist_trace h) (by simp)

/-- A key that can be saved for a host that had none is held for it from then on. -/
theorem persist_of_add {s' : TrustStore} {k : PublicKey} (hk : k.Legible)
    (hnone : s.trustedKeys host port = []) (h : s.add host port k = .ok s') :
    (persist s host port k).1 = ⟨s.entries ++ [TrustStore.entryOf host port k],
      .file (TrustStore.appended s.place.content (TrustStore.entryOf host port k).line)⟩ := by
  rcases TrustStore.add_ok h with ⟨hv, -⟩ | rfl
  · have hmem := TrustStore.mem_trustedKeys_of_verified hk hv
    rw [hnone] at hmem
    cases hmem
  · simp only [persist, h]

/-! ### The operator's file -/

theorem fromFile_result_ok {o : Operator} {r : Resolved} :
    (fromFile o s host port).result = .ok r ↔ ∃ k, KeyFile.read o.file = .ok k ∧ r = ⟨[k], .keyFile⟩ := by
  unfold fromFile
  split
  · rename_i e he
    simp [he]
  · rename_i k hk
    simp [hk, eq_comm]

theorem legible_of_ofText {text : String} {k : PublicKey} (h : KeyFile.ofText text = .ok k) : k.Legible := by
  unfold KeyFile.ofText at h
  split at h
  · cases h
  · split at h
    · cases h
    · rename_i key hkey
      obtain rfl := Except.ok.inj h
      exact PublicKey.legible_of_ofBase64? hkey

theorem legible_of_read {file : Except SystemError Bytes} {k : PublicKey} (h : KeyFile.read file = .ok k) :
    k.Legible := by
  unfold KeyFile.read at h
  split at h
  · cases h
  · split at h
    · cases h
    · exact legible_of_ofText h

/-! ### The gateway and the user -/

theorem fromGateway_result_ok {r : Resolved} :
    (fromGateway w s host port).result = .ok r ↔
      ∃ k, w.fetch host port = .ok k ∧ w.answer (question host port k) = some true ∧
        r = ⟨[k], .gateway⟩ := by
  unfold fromGateway
  split
  · rename_i e he
    simp [he]
  · rename_i k hk
    simp only [hk, Except.ok.injEq, exists_eq_left']
    split
    · rename_i ha
      simp [ha]
    · rename_i ha
      simp [ha]
    · rename_i ha
      simp [ha, eq_comm]

/-- Exactly one question is asked about a key that could be fetched: the one about this key. -/
theorem asked_mem_fromGateway {q : Question} :
    .asked q ∈ (fromGateway w s host port).trace ↔
      ∃ k, w.fetch host port = .ok k ∧ q = question host port k := by
  unfold fromGateway
  split
  · rename_i e he
    simp [he]
  · rename_i k hk
    simp only [hk, Except.ok.injEq, exists_eq_left']
    split
    · simp
    · simp
    · simp [asked_notMem_persist]

/-! ### The course of a resolution -/

/-- Where a key comes from that the store does not hold, and what is done to learn it. -/
inductive Learnt (w : World) (host : String) (port : UInt16) (k : PublicKey) : KeySource → List Event → Prop
  | filed {o : Operator} (configured : w.operator = some o) (inFile : KeyFile.read o.file = .ok k) :
    Learnt w host port k .keyFile [.readKeyFile]
  | consented (noFile : w.operator = none) (presented : w.fetch host port = .ok k)
    (yes : w.answer (question host port k) = some true) :
    Learnt w host port k .gateway [.fetched host port, .asked (question host port k)]

theorem Learnt.source_ne_store {k : PublicKey} {src : KeySource} {done : List Event}
    (h : Learnt w host port k src done) : src ≠ .store := by
  cases h <;> simp

theorem Learnt.unsaved {k : PublicKey} {src : KeySource} {done : List Event}
    (h : Learnt w host port k src done) (e : TrustStore.Entry) : .saved e ∉ done := by
  cases h <;> simp

theorem Learnt.legible {k : PublicKey} {src : KeySource} {done : List Event}
    (h : Learnt w host port k src done) (hw : ∀ k, w.fetch host port = .ok k → k.Legible) : k.Legible := by
  cases h with
  | filed configured inFile => exact legible_of_read inFile
  | consented noFile presented yes => exact hw k presented

/-- The ways in which a resolution can go.  One that fails has saved nothing. -/
inductive Course (w : World) (s : TrustStore) (host : String) (port : UInt16) : Outcome → Prop
  | stored (held : s.trustedKeys host port ≠ []) :
    Course w s host port ⟨.ok ⟨s.trustedKeys host port, .store⟩, s, []⟩
  | failed (noneHeld : s.trustedKeys host port = []) (f : Failure) {done : List Event}
    (unsaved : ∀ e, .saved e ∉ done) : Course w s host port ⟨.error f, s, done⟩
  | learnt (noneHeld : s.trustedKeys host port = []) {k : PublicKey} {src : KeySource} {done : List Event}
    (learnt : Learnt w host port k src done) : Course w s host port
      ⟨.ok ⟨[k], src⟩, (persist s host port k).1, done ++ (persist s host port k).2⟩

theorem course_fromFile {o : Operator} (h : s.trustedKeys host port = []) (ho : w.operator = some o) :
    Course w s host port (fromFile o s host port) := by
  unfold fromFile
  split
  · exact .failed h _ (by simp)
  · rename_i k hk
    exact .learnt h (.filed ho hk)

theorem course_fromGateway (h : s.trustedKeys host port = []) (ho : w.operator = none) :
    Course w s host port (fromGateway w s host port) := by
  unfold fromGateway
  split
  · exact .failed h _ (by simp)
  · rename_i k hk
    dsimp only
    split
    · exact .failed h _ (by simp)
    · exact .failed h _ (by simp)
    · rename_i ha
      exact .learnt h (.consented ho hk ha)

theorem course_resolve (w : World) (s : TrustStore) (host : String) (port : UInt16) :
    Course w s host port (resolve w s host port) := by
  by_cases h : s.trustedKeys host port = []
  · cases ho : w.operator with
    | some o =>
      rw [resolve_of_operator h ho]
      exact course_fromFile h ho
    | none =>
      rw [resolve_of_no_operator h ho]
      exact course_fromGateway h ho
  · rw [resolve_of_stored h]
    exact .stored h

end SshTunnel.Resolution

import Mathlib.Data.List.Induction
import Mathlib.Tactic.Common
import SshTunnel.Proofs.Trust.Resolution
import SshTunnel.Trust.Resolver

/-!
All the calls of a resolver.  What one call puts into the store a later one may find there, for another host and
port even.  So each entry in memory is traced back: to the file as it was at the start, to the operator's file,
or to a call at which the user said yes.  And a name that has a key keeps it, as nothing is added under a name
unless nothing is held under it.
-/

namespace SshTunnel.Resolution

open TrustStore (appended entriesAt entryOf nameOf ofPlace)

variable {o : Option Operator} {s : TrustStore} {p : Place} {vs : List Visit} {v : Visit} {k : PublicKey}

/-! ### Calls one after the other -/

theorem after_append (o : Option Operator) (s : TrustStore) (vs ws : List Visit) :
    after o s (vs ++ ws) = after o (after o s vs) ws := by
  rw [after, List.foldl_append, after, after]

theorem after_snoc (o : Option Operator) (s : TrustStore) (vs : List Visit) (v : Visit) :
    after o s (vs ++ [v]) = (v.outcome o (after o s vs)).store := by
  rw [after_append, after, List.foldl_cons, List.foldl_nil]

theorem course_outcome (o : Option Operator) (s : TrustStore) (v : Visit) :
    Course (v.world o) (v.found s) v.host v.port (v.outcome o s) := course_resolve ..

/-! ### Keys and who stands for them -/

/-- Somebody stands for the key: the operator, whose file it is in, or the user, who was asked about it at one
of the calls, when the gateway had been found to present it, and said yes. -/
inductive Vouched (o : Option Operator) (s : TrustStore) (vs : List Visit) (k : PublicKey) : Prop
  | filed {op : Operator} (configured : o = some op) (inFile : KeyFile.read op.file = .ok k)
  | consented {earlier later : List Visit} {v : Visit} (call : vs = earlier ++ v :: later)
    (presented : v.presented = .ok k)
    (asked : [.fetched v.host v.port, .asked (question v.host v.port k)] <+:
      (v.outcome o (after o s earlier)).trace)
    (yes : v.answer (question v.host v.port k) = some true)

theorem Vouched.legible (h : Vouched o s vs k) : k.Legible := by
  cases h with
  | filed configured inFile => exact legible_of_read inFile
  | consented call presented asked yes => exact Visit.legible _ k presented

theorem Vouched.append (h : Vouched o s vs k) (ws : List Visit) : Vouched o s (vs ++ ws) k := by
  cases h with
  | filed configured inFile => exact .filed configured inFile
  | @consented earlier later v call presented asked yes =>
    have hcall : vs ++ ws = earlier ++ v :: (later ++ ws) := by
      rw [call, List.append_assoc, List.cons_append]
    exact .consented hcall presented asked yes

/-- The entry was in the file at the start, or it is for a key that somebody stands for. -/
def Traced (o : Option Operator) (p : Place) (vs : List Visit) (e : TrustStore.Entry) : Prop :=
  e ∈ entriesAt p ∨ ∃ k, Vouched o (ofPlace p) vs k ∧ e.key = k.base64

/-- The key was in the file at the start, for whatever host, or somebody stands for it. -/
def Founded (o : Option Operator) (p : Place) (vs : List Visit) (k : PublicKey) : Prop :=
  (∃ e ∈ entriesAt p, PublicKey.ofBase64? e.key = some k) ∨ Vouched o (ofPlace p) vs k

theorem Traced.append {e : TrustStore.Entry} (h : Traced o p vs e) (ws : List Visit) :
    Traced o p (vs ++ ws) e := by
  rcases h with h | ⟨k, hk, he⟩
  · exact Or.inl h
  · exact Or.inr ⟨k, hk.append ws, he⟩

theorem Traced.founded {e : TrustStore.Entry} (h : Traced o p vs e) (hk : PublicKey.ofBase64? e.key = some k) :
    Founded o p vs k := by
  rcases h with h | ⟨k', hk', he⟩
  · exact Or.inl ⟨e, h, hk⟩
  · rw [he, hk'.legible.ofBase64?_base64] at hk
    exact Or.inr (Option.some.inj hk ▸ hk')

/-! ### One call -/

/-- What a call leaves in the store that it found: nothing new; or, after it learnt a key elsewhere, one more
entry, which is for this key and stands at the end of the file. -/
inductive Leaves (found : TrustStore) (host : String) (port : UInt16) (Stands : PublicKey → Prop) :
    Outcome → Prop
  | nothing {result : Except Failure Resolved} {done : List Event} (unsaved : ∀ e, .saved e ∉ done) :
    Leaves found host port Stands ⟨result, found, done⟩
  | entry {k : PublicKey} {src : KeySource} {done : List Event} (elsewhere : src ≠ .store) (stands : Stands k)
    (unsaved : ∀ e, .saved e ∉ done) : Leaves found host port Stands
      ⟨.ok ⟨[k], src⟩, ⟨found.entries ++ [entryOf host port k],
          .file (appended found.place.content (entryOf host port k).line)⟩,
        done ++ [.saved (entryOf host port k)]⟩

section Course

variable {w : World} {found : TrustStore} {host : String} {port : UInt16} {out : Outcome}
  {Stands : PublicKey → Prop}

theorem leaves_of_course (h : Course w found host port out)
    (hs : ∀ k src done, Learnt w host port k src done → done <+: out.trace → Stands k) :
    Leaves found host port Stands out := by
  cases h with
  | stored held => exact .nothing (by simp)
  | failed noneHeld f unsaved => exact .nothing unsaved
  | @learnt noneHeld k src done learnt =>
    have hk := hs k src done learnt (List.prefix_append ..)
    rcases persist_cases found host port k with hp | hp
    · rw [hp, List.append_nil]
      exact .nothing learnt.unsaved
    · rw [hp]
      exact .entry learnt.source_ne_store hk learnt.unsaved

theorem keys_of_course (h : Course w found host port out) (hf : ∀ k ∈ found.trustedKeys host port, Stands k)
    (hs : ∀ k src done, Learnt w host port k src done → done <+: out.trace → Stands k)
    {r : Resolved} (hr : out.result = .ok r) : r.keys ≠ [] ∧ ∀ k ∈ r.keys, Stands k := by
  cases h with
  | stored held =>
    obtain rfl := Except.ok.inj hr
    exact ⟨held, hf⟩
  | failed noneHeld f unsaved => cases hr
  | @learnt noneHeld k src done learnt =>
    obtain rfl := Except.ok.inj hr
    refine ⟨by simp, fun k' hk' => ?_⟩
    obtain rfl := List.mem_singleton.1 hk'
    exact hs k' src done learnt (List.prefix_append ..)

end Course

/-- What a call learns is vouched for by the operator or by this very call. -/
theorem vouched_of_learnt {src : KeySource} {done : List Event}
    (h : Learnt (v.world o) v.host v.port k src done)
    (hdone : done <+: (v.outcome o (after o s vs)).trace) : Vouched o s (vs ++ [v]) k := by
  cases h with
  | filed configured inFile => exact .filed configured inFile
  | consented noFile presented yes => exact .consented rfl presented hdone yes

theorem leaves_outcome (o : Option Operator) (s : TrustStore) (vs : List Visit) (v : Visit) :
    Leaves (v.found (after o s vs)) v.host v.port (Vouched o s (vs ++ [v])) (v.outcome o (after o s vs)) :=
  leaves_of_course (course_outcome ..) fun _ _ _ => vouched_of_learnt

/-! ### Keys traced back -/

theorem Leaves.traced {found : TrustStore} {host : String} {port : UInt16} {out : Outcome}
    (h : Leaves found host port (Vouched o (ofPlace p) vs) out) (hf : ∀ e ∈ found.entries, Traced o p vs e) :
    ∀ e ∈ out.store.entries, Traced o p vs e := by
  cases h with
  | nothing unsaved => exact hf
  | @entry k src done elsewhere stands unsaved =>
    intro e he
    rcases List.mem_append.1 he with he | he
    · exact hf e he
    · obtain rfl := List.mem_singleton.1 he
      exact Or.inr ⟨k, stands, rfl⟩

/-- Whatever the calls, each entry in memory can be traced back. -/
theorem traced_after (o : Option Operator) (p : Place) (vs : List Visit) :
    ∀ e ∈ (after o (ofPlace p) vs).entries, Traced o p vs e := by
  induction vs using List.reverseRecOn with
  | nil => exact fun e he => Or.inl he
  | append_singleton vs v ih =>
    rw [after_snoc]
    exact (leaves_outcome o (ofPlace p) vs v).traced fun e he => (ih e he).append [v]

/-- Keys that a call finds in the store rest on entries from before. -/
theorem founded_of_found (h : k ∈ (v.found (after o (ofPlace p) vs)).trustedKeys v.host v.port) :
    Founded o p (vs ++ [v]) k := by
  obtain ⟨e, he, hkey⟩ := TrustStore.mem_trustedKeys.1 h
  have htraced := traced_after o p vs e (TrustStore.mem_entries_of_mem_entriesFor he)
  exact (htraced.append [v]).founded hkey

/-- **No key comes to be trusted that nobody stands for.**  This goes for the keys that a call gives, and for
the entry that it appends, if it does; whatever was called before. -/
theorem keys_vouched (o : Option Operator) (p : Place) (earlier : List Visit) (v : Visit) :
    (∀ r, (v.outcome o (after o (ofPlace p) earlier)).result = .ok r →
      r.keys ≠ [] ∧ ∀ k ∈ r.keys, Founded o p (earlier ++ [v]) k) ∧
    Leaves (v.found (after o (ofPlace p) earlier)) v.host v.port (Vouched o (ofPlace p) (earlier ++ [v]))
      (v.outcome o (after o (ofPlace p) earlier)) ∧
    ∀ e ∈ (after o (ofPlace p) earlier).entries, Traced o p earlier e := by
  refine ⟨fun r hr => ?_, leaves_outcome .., traced_after o p earlier⟩
  refine keys_of_course (course_outcome ..) (fun k => founded_of_found) (fun k src done h hdone => ?_) hr
  exact Or.inr (vouched_of_learnt h hdone)

/-! ### Keys that are kept -/

section Course

variable {w : World} {found s' : TrustStore} {host name : String} {port : UInt16} {out : Outcome}
  {src : KeySource}

/-- Nothing changes under a name that has a key. -/
theorem keysNamed_of_course (h : Course w found host port out)
    (hw : ∀ k, w.fetch host port = .ok k → k.Legible) (hn : found.keysNamed name ≠ []) :
    out.store.keysNamed name = found.keysNamed name := by
  cases h with
  | stored held => rfl
  | failed noneHeld f unsaved => rfl
  | @learnt noneHeld k src done learnt =>
    -- a name that has a key is not asked about outside, so what is learnt goes under another one
    have hname : nameOf host port ≠ name := by
      rintro rfl
      exact hn (TrustStore.keysNamed_of_trustedKeys noneHeld)
    rcases persist_cases found host port k with hp | hp
    · rw [hp]
    · rw [hp, TrustStore.keysNamed_append (learnt.legible hw), if_neg hname, List.append_nil]

/-- A key that was learnt and saved is the one key under the name of the host and port. -/
theorem keysNamed_of_saved (h : Course w found host port out)
    (hw : ∀ k, w.fetch host port = .ok k → k.Legible) (hr : out.result = .ok ⟨[k], src⟩) (hsrc : src ≠ .store)
    (hs : found.add host port k = .ok s') : out.store.keysNamed (nameOf host port) = [k] := by
  cases h with
  | stored held => exact absurd (congrArg Resolved.source (Except.ok.inj hr)).symm hsrc
  | failed noneHeld f unsaved => cases hr
  | @learnt noneHeld k' src' done learnt =>
    obtain ⟨rfl, rfl⟩ : k' = k ∧ src' = src := by simpa using hr
    have hk := learnt.legible hw
    dsimp only
    rw [persist_of_add hk noneHeld hs, TrustStore.keysNamed_append hk, if_pos rfl,
      TrustStore.keysNamed_of_trustedKeys noneHeld, List.nil_append]

end Course

/-- What comes of asking the gateway for its key is a key that can be read, if it is one. -/
theorem Visit.legible_of_fetch (v : Visit) (o : Option Operator) :
    ∀ k, (v.world o).fetch v.host v.port = .ok k → k.Legible := v.legible

/-- What others do to the file changes nothing in memory. -/
theorem Visit.keysNamed_found (v : Visit) (s : TrustStore) (name : String) :
    (v.found s).keysNamed name = s.keysNamed name := rfl

theorem keysNamed_outcome {name : String} (h : s.keysNamed name ≠ []) :
    (v.outcome o s).store.keysNamed name = s.keysNamed name := by
  rw [← v.keysNamed_found s] at h ⊢
  exact keysNamed_of_course (course_outcome ..) (v.legible_of_fetch o) h

/-- Whatever is called, the keys under a name stay the ones they are as soon as there are any. -/
theorem keysNamed_after {name : String} (o : Option Operator) (vs : List Visit) :
    ∀ {s : TrustStore}, s.keysNamed name ≠ [] → (after o s vs).keysNamed name = s.keysNamed name := by
  induction vs with
  | nil => exact fun _ => rfl
  | cons v vs ih =>
    intro s h
    have hv := keysNamed_outcome (o := o) (v := v) h
    rw [after, List.foldl_cons, ← after, ih (by rwa [hv]), hv]

/-- **What is trusted at first use stays trusted, and nothing else comes beside it.** -/
theorem first_use_kept (o : Option Operator) (p : Place) (earlier between : List Visit) (v v' : Visit)
    (k : PublicKey) (src : KeySource)
    (h : (v.outcome o (after o (ofPlace p) earlier)).result = .ok ⟨[k], src⟩) (hsrc : src ≠ .store)
    (hsaved : ∃ s, (v.found (after o (ofPlace p) earlier)).add v.host v.port k = .ok s)
    (hhost : Text.lower v'.host = Text.lower v.host) (hport : v'.port = v.port) :
    v'.outcome o (after o (ofPlace p) (earlier ++ v :: between)) =
      ⟨.ok ⟨[k], .store⟩, v'.found (after o (ofPlace p) (earlier ++ v :: between)), []⟩ := by
  obtain ⟨s, hs⟩ := hsaved
  have hfirst := keysNamed_of_saved (course_outcome ..) (v.legible_of_fetch o) h hsrc hs
  have hnow : (after o (ofPlace p) (earlier ++ v :: between)).keysNamed (nameOf v'.host v'.port) = [k] := by
    rw [TrustStore.nameOf_congr hhost, hport, after_append, after, List.foldl_cons, ← after]
    rw [keysNamed_after o between (by rw [hfirst]; simp), hfirst]
  have hkeys : (v'.found (after o (ofPlace p) (earlier ++ v :: between))).trustedKeys v'.host v'.port = [k] := by
    rw [TrustStore.trustedKeys_of_keysNamed (by rw [v'.keysNamed_found, hnow]; simp), v'.keysNamed_found, hnow]
  rw [Visit.outcome, resolve_of_stored (by rw [hkeys]; simp), hkeys]

/-- A call at which the gateway presents a key of one byte all over, and the user answers as given. -/
def presenting (b : UInt8) (host : String) (port : UInt16) (answer : Bool) : Visit where
  host := host
  port := port
  presented := .ok (.ed25519 (List.replicate 32 b))
  legible := by
    rintro k ⟨rfl⟩
    exact PublicKey.legible_iff_wellFormed.2 (by simp [PublicKey.WellFormed])
  answer _ := some answer

/-- A store with something under a name that is no key. -/
def spoiled : Place := .file (Text.encode "[gw]:2222 ssh-ed25519 AAAA\n")

/-- The user says no at first and then yes; later another host that goes by the same name is called, and the
same host at another port. -/
theorem first_use_kept_besideOthers :
    ((presenting 7 "gw" 2222 true).outcome none
        (after none (ofPlace spoiled) [presenting 7 "gw" 2222 false])).result =
      .ok ⟨[.ed25519 (List.replicate 32 7)], .gateway⟩ ∧
    ((presenting 9 "GW" 2222 true).outcome none (after none (ofPlace spoiled)
      ([presenting 7 "gw" 2222 false] ++ presenting 7 "gw" 2222 true ::
        [presenting 9 "[GW]:2222" 22 true, presenting 9 "gw" 22 true]))).result =
      .ok ⟨[.ed25519 (List.replicate 32 7)], .store⟩ := by
  have hrefused : after none (ofPlace spoiled) [presenting 7 "gw" 2222 false] = ofPlace spoiled := by
    decide +kernel
  have hfirst : ((presenting 7 "gw" 2222 true).outcome none
      (after none (ofPlace spoiled) [presenting 7 "gw" 2222 false])).result =
        .ok ⟨[.ed25519 (List.replicate 32 7)], .gateway⟩ := by
    rw [hrefused]
    decide +kernel
  have hsaved : ∃ s, ((presenting 7 "gw" 2222 true).found (after none (ofPlace spoiled)
      [presenting 7 "gw" 2222 false])).add "gw" 2222 (.ed25519 (List.replicate 32 7)) = .ok s := by
    rw [hrefused]
    obtain ⟨s, _, hs, -⟩ := TrustStore.exists_add_of_file (s := ofPlace spoiled) rfl "gw" 2222
      (.ed25519 (List.replicate 32 7))
    exact ⟨s, hs⟩
  have hlater := first_use_kept none spoiled [presenting 7 "gw" 2222 false]
    [presenting 9 "[GW]:2222" 22 true, presenting 9 "gw" 22 true] (presenting 7 "gw" 2222 true)
    (presenting 9 "GW" 2222 true) _ _ hfirst (by simp) hsaved (by decide +kernel) rfl
  exact ⟨hfirst, congrArg Outcome.result hlater⟩

end SshTunnel.Resolution

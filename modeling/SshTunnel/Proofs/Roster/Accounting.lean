import SshTunnel.Proofs.Roster.Ledger

/-!
What a shared roster shows after any row of steps.  The books are kept by every step, and so by every run; a
rule that nobody is registering for or leaving has counters that agree with the entries.
-/

namespace SshTunnel.Roster

/-! ### Registrations in a run -/

/-- The rule that a step begins a registration for. -/
def Move.rule? : Move → Option Nat
  | .takeId rule _ => some rule
  | _ => none

/-- The rules that connections were registered for, in order. -/
def registered (ms : List Move) : List Nat := ms.filterMap Move.rule?

namespace Shared

variable {s s' : Shared} {m : Move} {ms : List Move}

/-- What no step changes, and what only the beginning of a registration does. -/
theorem step_frame (h : s.step m = some s') :
    s'.roster.stats.length = s.roster.stats.length ∧
      ((∃ rule peer, m = .takeId rule peer) ∨
        m.rule? = none ∧ s'.begun = s.begun ∧ s'.roster.nextId = s.roster.nextId) := by
  cases m with
  | takeId rule peer =>
    obtain rfl := Option.some.inj h
    exact ⟨rfl, Or.inl ⟨rule, peer, rfl⟩⟩
  | enter id =>
    obtain ⟨p, peer, -, -, rfl⟩ := step_enter h
    exact ⟨rfl, Or.inr ⟨rfl, rfl, rfl⟩⟩
  | countIn id =>
    obtain ⟨p, -, -, rfl⟩ := step_countIn h
    exact ⟨List.length_modify .., Or.inr ⟨rfl, rfl, rfl⟩⟩
  | drop id =>
    obtain ⟨-, rfl⟩ := step_drop h
    exact ⟨rfl, Or.inr ⟨rfl, rfl, rfl⟩⟩
  | countOut id =>
    obtain ⟨p, -, -, rfl⟩ := step_countOut h
    exact ⟨List.length_modify .., Or.inr ⟨rfl, rfl, rfl⟩⟩
  | attach id task =>
    obtain rfl := Option.some.inj h
    exact ⟨rfl, Or.inr ⟨rfl, rfl, rfl⟩⟩
  | look =>
    obtain rfl := Option.some.inj h
    exact ⟨rfl, Or.inr ⟨rfl, rfl, rfl⟩⟩

theorem step_begun (h : s.step m = some s') :
    s'.begun.map Pending.rule = m.rule?.toList ++ s.begun.map Pending.rule := by
  obtain ⟨-, ⟨rule, peer, rfl⟩ | ⟨hm, hbegun, -⟩⟩ := step_frame h
  · obtain rfl := Option.some.inj h
    rfl
  · rw [hm, hbegun]
    rfl

/-! ### Calls that nobody interrupts -/

theorem run_register (s : Shared) (rule : Nat) (peer : Endpoint) :
    (s.run [.takeId rule peer, .enter s.roster.nextId, .countIn s.roster.nextId]).map
        (fun s' => (s'.roster, s'.guards)) =
      some ((s.roster.register rule peer).2, s.roster.nextId :: s.guards) := by
  simp [run, step, Roster.takeId, Roster.register]

theorem run_release {id : UInt64} (h : id ∈ s.guards) (hin : (s.roster.entry? id).isSome) :
    (s.run [.drop id, .countOut id]).map (fun s' => (s'.roster, s'.guards)) =
      some (s.roster.release id, s.guards.erase id) := by
  obtain ⟨e, he⟩ := Option.isSome_iff_exists.1 hin
  simp [run, step, h, he, Roster.release]

/-! ### The books are kept -/

theorem Numbered.step (h : Numbered s) (hb : s'.begun.length < 2 ^ 64) (hs : s.step m = some s') :
    Numbered s' := by
  obtain ⟨-, ⟨rule, peer, rfl⟩ | ⟨-, hbegun, hnext⟩⟩ := step_frame hs
  · obtain rfl := Option.some.inj hs
    obtain ⟨hnext, hids⟩ := h.takeId rule hb
    exact ⟨hnext, hids⟩
  · refine ⟨?_, ?_⟩
    · rw [hnext, hbegun, h.next]
    · rw [hbegun, h.ids]

/-- One step keeps the books, whichever call makes it. -/
theorem Booked.step {held gone : List Pending} (h : Booked s held gone) (hn : (s.begun.map Pending.id).Nodup)
    (hb : s.begun.length < 2 ^ 64) (hs : s.step m = some s') : ∃ held' gone', Booked s' held' gone' := by
  cases m with
  | takeId rule peer => exact ⟨held, gone, h.takeId hs⟩
  | enter id => exact ⟨held, gone, h.enter hn hs⟩
  | countIn id =>
    obtain ⟨p, h'⟩ := h.countIn hb hs
    exact ⟨p :: held, gone, h'⟩
  | drop id =>
    obtain ⟨e, -, -, -, h'⟩ := h.drop hn hs
    exact ⟨held.erase e.pending, e.pending :: gone, h'⟩
  | countOut id => exact ⟨held, gone, h.countOut hs⟩
  | attach id task => exact ⟨held, gone, h.attach hs⟩
  | look =>
    obtain rfl := Option.some.inj hs
    exact ⟨held, gone, h⟩

/-- The books are in order. -/
def Kept (s : Shared) : Prop := Numbered s ∧ ∃ held gone, Booked s held gone

theorem kept_forRules (n : Nat) : Kept (forRules n) := ⟨⟨rfl, rfl⟩, [], [], booked_forRules n⟩

/-- Every run keeps the books, whatever the order of its steps. -/
theorem Kept.run : ∀ {ms : List Move} {s s' : Shared}, Kept s →
    s.begun.length + (registered ms).length < 2 ^ 64 → s.run ms = some s' →
    Kept s' ∧ s'.begun.map Pending.rule = (registered ms).reverse ++ s.begun.map Pending.rule ∧
      s'.roster.stats.length = s.roster.stats.length
  | [], s, s', h, _, hrun => by
    obtain rfl := Option.some.inj hrun
    exact ⟨h, rfl, rfl⟩
  | m :: ms, s, s', h, hb, hrun => by
    obtain ⟨s₁, hs, hrun⟩ := Option.bind_eq_some_iff.1 hrun
    have hbegun := step_begun hs
    have hreg : registered (m :: ms) = m.rule?.toList ++ registered ms := by
      unfold registered
      rw [List.filterMap_cons]
      cases m.rule? <;> rfl
    have hlen : s₁.begun.length = m.rule?.toList.length + s.begun.length := by
      have := congrArg List.length hbegun
      simpa using this
    -- a registration moves from the moves to come to those begun, so the bound is the same all along
    have hb₁ : s₁.begun.length + (registered ms).length < 2 ^ 64 := by
      rw [hreg, List.length_append] at hb
      omega
    obtain ⟨hnum, held, gone, hbook⟩ := h
    have hkept₁ : Kept s₁ := ⟨hnum.step (by omega) hs, hbook.step hnum.nodup (by omega) hs⟩
    obtain ⟨hkept, hrules, hstats⟩ := hkept₁.run hb₁ hrun
    refine ⟨hkept, ?_, hstats.trans (step_frame hs).1⟩
    rw [hrules, hbegun, hreg, List.reverse_append, List.append_assoc]
    cases m.rule? <;> rfl

/-! ### What the books show -/

/-- Nobody is halfway through registering for the rule, or through leaving it. -/
def AtRest (s : Shared) (t : Nat) : Prop :=
  ∀ p ∈ s.numbered.map Prod.fst ++ s.entered ++ s.removed, p.rule ≠ t

/-- An id is one registration's only, has at most one guard ever, and no entry any more once that is dropped. -/
structure Unique (s : Shared) : Prop where
  begun : (s.begun.map Pending.id).Nodup
  guards : (s.guards ++ s.dropped).Nodup
  dropped : ∀ id ∈ s.dropped, s.roster.entry? id = none

/-- The entries without their tasks. -/
def keys (s : Shared) : List (Pending × Endpoint) := s.roster.entries.map fun e => (e.pending, e.peer)

/-- What the next step can do to the books: a task is noted with an entry that is there, a guard takes out its
own entry, and there is always something to count out. -/
structure Orderly (s : Shared) : Prop where
  attach : ∀ id task s', s.step (.attach id task) = some s' → s'.keys = s.keys
  drop : ∀ id s', s.step (.drop id) = some s' →
    ∃ e ∈ s.roster.entries, e.id = id ∧ e.pending ∈ s.begun ∧ s'.roster.entries = s.roster.entries.erase e
  countOut : ∀ id s', s.step (.countOut id) = some s' →
    ∃ p ∈ s.removed, p.id = id ∧ ∀ st, s.roster.stats? p.rule = some st → st.active ≠ 0

variable {held gone : List Pending}

theorem Booked.unique (h : Booked s held gone) (hn : (s.begun.map Pending.id).Nodup) : Unique s := by
  have hall := h.ids hn
  rw [List.map_append, List.map_append] at hall
  have hguards : (s.guards ++ s.dropped).Nodup := by
    rw [(h.guards.append h.dropped).nodup_iff, ← List.map_append]
    exact hall.of_append_right.of_append_right
  refine ⟨hn, hguards, fun id hid => ?_⟩
  unfold Roster.entry?
  rw [List.find?_eq_none]
  intro e he hsame
  have hin := List.mem_map_of_mem (f := Pending.id) (h.pending_mem he)
  have hout := h.dropped.mem_iff.1 hid
  have heq : e.pending.id = id := of_decide_eq_true hsame
  rw [heq] at hin
  have hlive : ((s.entered ++ held).map Pending.id ++ gone.map Pending.id).Nodup := by
    rw [← List.map_append, List.append_assoc, List.map_append]
    exact hall.of_append_right
  exact List.disjoint_of_nodup_append hlive hin hout

theorem Booked.orderly (h : Booked s held gone) (hn : (s.begun.map Pending.id).Nodup) : Orderly s := by
  refine ⟨?_, ?_, ?_⟩
  · intro id task s' hs
    obtain rfl := Option.some.inj hs
    unfold keys Roster.attach
    rw [List.map_map]
    refine List.map_congr_left fun e _ => ?_
    dsimp only [Function.comp]
    split <;> rfl
  · intro id s' hs
    obtain ⟨e, he, hid, hentries, -⟩ := h.drop hn hs
    exact ⟨e, he, hid, h.begun_mem he, hentries⟩
  · intro id s' hs
    obtain ⟨p, hp, hid, -⟩ := step_countOut hs
    exact ⟨p, hp, hid, fun st hst => h.active_ne_zero hp hst⟩

/-- At rest the counters of a rule agree with the entries and with the registrations. -/
theorem Booked.atRest {t : Nat} {st : Stats} (h : Booked s held gone) (ht : s.AtRest t)
    (hst : s.roster.stats? t = some st) :
    st.active.toNat = s.roster.activeFor t ∧
      st.connections.toNat = (s.begun.map Pending.rule).count t := by
  have hnone : ∀ l : List Pending, (∀ p ∈ l, p ∈ s.numbered.map Prod.fst ++ s.entered ++ s.removed) →
      l.countP (fun p => p.rule = t) = 0 := by
    intro l hl
    rw [List.countP_eq_zero]
    intro p hp
    simpa using ht p (hl p hp)
  have hnumbered := hnone (s.numbered.map Prod.fst) fun p hp => by simp [hp]
  have hentered := hnone s.entered fun p hp => by simp [hp]
  have hremoved := hnone s.removed fun p hp => by simp [hp]
  refine ⟨?_, ?_⟩
  · rw [h.active t st hst, activeFor_eq_countP, h.entries.countP_eq, List.countP_append, List.countP_append,
      hentered, hremoved]
    omega
  · rw [h.connections t st hst, List.count_eq_countP, List.countP_map, h.begun.countP_eq]
    have heq : ((fun x : Nat => x == t) ∘ Pending.rule) = fun p => decide (p.rule = t) := rfl
    simp only [heq, List.countP_append, hnumbered, hentered]
    omega

/-- Every entry is of a rule that somebody registered for. -/
theorem Booked.active_eq_sum (h : Booked s held gone) :
    s.roster.active = ∑ t ∈ (s.begun.map Pending.rule).toFinset, s.roster.activeFor t := by
  have hsum : (s.roster.entries.map Entry.rule : Multiset Nat).card =
      ∑ t ∈ (s.begun.map Pending.rule).toFinset, (s.roster.entries.map Entry.rule : Multiset Nat).count t := by
    refine (Multiset.sum_count_eq_card fun t ht => ?_).symm
    obtain ⟨e, he, rfl⟩ := List.mem_map.1 (Multiset.mem_coe.1 ht)
    exact List.mem_toFinset.2 (List.mem_map_of_mem (f := Pending.rule) (h.begun_mem he))
  rw [Multiset.coe_card, List.length_map] at hsum
  refine hsum.trans (Finset.sum_congr rfl fun t _ => ?_)
  rw [Multiset.coe_count, List.count_eq_countP, List.countP_map]
  rfl

/-- **The books of a shared roster are right at every moment**, whatever the order in which the calls make
their steps. -/
theorem run_accounted (n : Nat) (ms : List Move) (s : Shared) (hrun : (forRules n).run ms = some s)
    (hb : (registered ms).length < 2 ^ 64) :
    Unique s ∧ Orderly s ∧
      (∀ t < n, s.AtRest t → ∃ st, s.roster.stats? t = some st ∧
        st.active.toNat = s.roster.activeFor t ∧ st.connections.toNat = (registered ms).count t) ∧
      s.roster.active = ∑ t ∈ (registered ms).toFinset, s.roster.activeFor t := by
  have hb₀ : (forRules n).begun.length + (registered ms).length < 2 ^ 64 := by
    rw [show (forRules n).begun.length = 0 from rfl]
    omega
  obtain ⟨⟨hnum, held, gone, hbook⟩, hrules, hlen⟩ := (kept_forRules n).run hb₀ hrun
  have hreg : s.begun.map Pending.rule = (registered ms).reverse := by
    rw [hrules]
    exact List.append_nil _
  refine ⟨hbook.unique hnum.nodup, hbook.orderly hnum.nodup, ?_, ?_⟩
  · intro t ht hrest
    have hstats : t < s.roster.stats.length := by
      rw [hlen]
      exact ht.trans_eq (List.length_replicate ..).symm
    obtain ⟨hact, hconn⟩ := hbook.atRest hrest (List.getElem?_eq_getElem hstats)
    refine ⟨_, List.getElem?_eq_getElem hstats, hact, ?_⟩
    rw [hconn, hreg, List.count_reverse]
  · rw [hbook.active_eq_sum, hreg, List.toFinset_reverse]

/-- Two connections by one rule and one by a rule without counters: the first is gone, but not counted out yet,
when its task is attached, and the others are in, but not counted yet. -/
theorem run_accounted_halfway :
    ∃ s, (forRules 1).run [.takeId 0 ⟨"localhost", 40000⟩, .takeId 5 ⟨"localhost", 40001⟩, .enter 1,
        .countIn 1, .takeId 0 ⟨"localhost", 40002⟩, .enter 3, .drop 1, .look, .attach 1 7, .enter 2] = some s ∧
      (s.removed, s.entered) = ([⟨1, 0⟩], [⟨2, 5⟩, ⟨3, 0⟩]) ∧ Orderly s ∧
      s.roster.active = ∑ t ∈ ([0, 5, 0] : List Nat).toFinset, s.roster.activeFor t := by
  have hend : ((forRules 1).run [.takeId 0 ⟨"localhost", 40000⟩, .takeId 5 ⟨"localhost", 40001⟩, .enter 1,
      .countIn 1, .takeId 0 ⟨"localhost", 40002⟩, .enter 3, .drop 1, .look, .attach 1 7, .enter 2]).map
      (fun s => (s.removed, s.entered)) = some ([⟨1, 0⟩], [⟨2, 5⟩, ⟨3, 0⟩]) := by
    decide +kernel
  obtain ⟨s, hs, hhalf⟩ := Option.map_eq_some_iff.1 hend
  obtain ⟨-, horderly, -, htotal⟩ := run_accounted 1 _ s hs (by decide)
  exact ⟨s, hs, hhalf, horderly, htotal⟩

end Shared

end SshTunnel.Roster

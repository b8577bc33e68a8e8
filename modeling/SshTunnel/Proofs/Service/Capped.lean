import SshTunnel.Proofs.Service.Capacity

/-!
What the cap comes to.  Whatever the order of events, the permits of a rule add up to its cap, no more connections
than that are on the roster for it, and each permit that was handed on comes back, once.
-/

namespace SshTunnel

/-- Nothing is left to do for it but to let go: its forwarder is through, on whatever path, or it is to be aborted. -/
def Connection.isOver (c : Connection) : Bool :=
  c.done || c.aborted || match c.forwarder with
    | some (.ended ..) => true
    | _ => false

namespace Service

variable {s s' : Service} {m : Move} {ms : List Move} {rules : List Rule} {limits : Limits} {i j : Nat}
  {a : Acceptor} {t : TaskId} {c c' : Connection}

/-! ### Giving back -/

/-- Moves of the connection alone, after which one of its rule's permits that were lent is free. -/
def GivesBack (s : Service) (t : TaskId) (rule : Nat) : Prop :=
  ∃ (ms : List Move) (s' : Service) (p : Permits), (∀ m ∈ ms, m.task? = some t) ∧ s.run ms = some s' ∧
    s.permits rule = some { p with lent := p.lent + 1 } ∧ s'.permits rule = some { p with free := p.free + 1 }

theorem GivesBack.cons {rule : Nat} (h : GivesBack s' t rule) (hm : m.task? = some t) (hs : s.step m = some s')
    (hp : s'.permits rule = s.permits rule) : GivesBack s t rule := by
  obtain ⟨ms, s'', p, hms, hrun, hbefore, hafter⟩ := h
  refine ⟨m :: ms, s'', p, ?_, ?_, ?_, hafter⟩
  · intro x hx
    rcases List.mem_cons.1 hx with rfl | hx
    · exact hm
    · exact hms x hx
  · rw [run, hs]
    exact hrun
  · rw [← hp]
    exact hbefore

theorem permits_of_same (hacc : s'.acceptors = s.acceptors) (hlent : s'.lent j = s.lent j) :
    s'.permits j = s.permits j := by
  unfold permits
  rw [hacc, hlent]

/-- The last move. -/
theorem givesBack_of_last (hc : s.connections[t]? = some c) (ha : s.acceptors[c.rule]? = some a)
    (hdone : c.done = true) (hpermit : c.permit = true) (hlast : c.forwarder = none ∨ c.guard = .released) :
    GivesBack s t c.rule := by
  have hgo : c.letGo .returnPermit = some { c with permit := false } := by
    refine if_pos ⟨hdone, hpermit, ?_⟩
    rcases hlast with hnone | hreleased
    · exact Or.inl (by rw [hnone]; rfl)
    · exact Or.inr hreleased
  have hstep : s.step (.letGo t .returnPermit) =
      some ((s.setConnection t { c with permit := false }).setAcceptor c.rule { a with free := a.free + 1 }) := by
    simp [step, letGo, hc, ha, hgo]
  -- what the acceptor gains is what is lent less, which is what keeps the sum
  have hlent := lent_returnPermit hc hpermit c.rule
  rw [if_pos rfl] at hlent
  have hat : ((s.setConnection t { c with permit := false }).setAcceptor c.rule
      { a with free := a.free + 1 }).acceptors[c.rule]? = some { a with free := a.free + 1 } :=
    getElem?_set_of_getElem? ha _
  refine ⟨[.letGo t .returnPermit],
    (s.setConnection t { c with permit := false }).setAcceptor c.rule { a with free := a.free + 1 },
    ⟨a.free, a.permit.toNat, (s.setConnection t { c with permit := false }).lent c.rule⟩, ?_, ?_, ?_, ?_⟩
  · intro m hm
    rw [List.mem_singleton.1 hm]
    rfl
  · rw [run, hstep]
    rfl
  · unfold permits
    rw [ha, hlent.symm]
    rfl
  · unfold permits
    rw [hat]
    rfl

theorem givesBack_of_removed (hc : s.connections[t]? = some c) (ha : s.acceptors[c.rule]? = some a)
    (hdone : c.done = true) (hpermit : c.permit = true) (hguard : c.guard = .removed) : GivesBack s t c.rule := by
  have hstep : s.step (.letGo t .countOut) = some { s.setConnection t { c with guard := .released } with
      roster := s.roster.count c.rule Stats.disconnected } := by
    simp [step, letGo, hc, Connection.letGo, hguard]
  refine GivesBack.cons ?_ rfl hstep ?_
  · exact givesBack_of_last (c := { c with guard := .released }) (getElem?_set_of_getElem? hc _) ha hdone hpermit
      (Or.inr rfl)
  · exact permits_of_same rfl (lent_setConnection hc { c with guard := .released } rfl rfl c.rule)

/-- From the end of the task on. -/
theorem givesBack_of_done (hc : s.connections[t]? = some c) (ha : s.acceptors[c.rule]? = some a)
    (hdone : c.done = true) (hpermit : c.permit = true) : GivesBack s t c.rule := by
  -- how far the guard has been let go says how many moves are left: one, two or three
  cases hguard : c.guard with
  | released => exact givesBack_of_last hc ha hdone hpermit (Or.inr hguard)
  | removed => exact givesBack_of_removed hc ha hdone hpermit hguard
  | held =>
    -- a task that never dialled holds no guard, so it has only its permit to return
    cases hf : c.forwarder with
    | none => exact givesBack_of_last hc ha hdone hpermit (Or.inl hf)
    | some f =>
      have hstep : s.step (.letGo t .remove) = some { s.setConnection t { c with guard := .removed } with
          roster := s.roster.remove c.id } := by
        simp [step, letGo, hc, Connection.letGo, hdone, hguard, hf]
      refine GivesBack.cons ?_ rfl hstep ?_
      · exact givesBack_of_removed (c := { c with guard := .removed }) (getElem?_set_of_getElem? hc _) ha hdone
          hpermit rfl
      · exact permits_of_same rfl (lent_setConnection hc { c with guard := .removed } rfl rfl c.rule)

theorem step_work_over {rule : Rule} {cm : Connection.Move} (hc : s.connections[t]? = some c)
    (hrule : s.rules[c.rule]? = some rule) (hm : cm = .finish ∨ cm = .cancel)
    (hwork : c.work ⟨rule.remoteAddr, s.limits.dial⟩ s.isForced cm = some { c with done := true }) :
    s.step (.work t cm) = some { s.setConnection t { c with done := true } with
      roster := countBytes c { c with done := true } s.roster } := by
  refine Option.bind_eq_some_iff.2 ⟨c, hc, Option.bind_eq_some_iff.2 ⟨(), ?_, ?_⟩⟩
  · rcases hm with rfl | rfl
    · rfl
    · rfl
  · refine Option.bind_eq_some_iff.2 ⟨rule, hrule, Option.bind_eq_some_iff.2 ⟨_, hwork, ?_⟩⟩
    rcases hm with rfl | rfl
    · rfl
    · rfl

/-- Whatever way a connection ends, its permit is free again. -/
theorem givesBack_of_isOver {rule : Rule} (hc : s.connections[t]? = some c) (hrule : s.rules[c.rule]? = some rule)
    (ha : s.acceptors[c.rule]? = some a) (hover : c.isOver = true) (hpermit : c.permit = true) :
    GivesBack s t c.rule := by
  cases hdone : c.done with
  | true => exact givesBack_of_done hc ha hdone hpermit
  | false =>
    -- finishing and being cancelled come to the same state, from which the guard is let go
    have hend : ∀ {cm : Connection.Move}, cm = .finish ∨ cm = .cancel →
        c.work ⟨rule.remoteAddr, s.limits.dial⟩ s.isForced cm = some { c with done := true } →
        GivesBack s t c.rule := by
      intro cm hm hwork
      refine GivesBack.cons ?_ rfl (step_work_over hc hrule hm hwork) ?_
      · exact givesBack_of_done (c := { c with done := true }) (getElem?_set_of_getElem? hc _) ha rfl hpermit
      · exact permits_of_same rfl (lent_setConnection hc { c with done := true } rfl rfl c.rule)
    unfold Connection.isOver at hover
    rw [hdone, Bool.false_or, Bool.or_eq_true] at hover
    rcases hover with habort | hended
    · exact hend (Or.inr rfl) (by simp [Connection.work, habort, hdone])
    · split at hended
      · rename_i b r hf
        exact hend (Or.inl rfl) (by simp [Connection.work, hf, hdone])
      · cases hended

/-! ### The cap -/

/-- What a cap of `n` for each rule comes to after the moves so far. -/
structure Capped (n : Nat) (ms : List Move) (s : Service) : Prop where
  /-- Once an acceptor has made its permits, all of them are somewhere. -/
  total : ∀ i a p, s.acceptors[i]? = some a → a.stage ≠ .starting → s.permits i = some p → p.total = n
  active : ∀ i, s.roster.activeFor i ≤ n
  /-- A connection has its permit until it gives it back, and does that once. -/
  returned : ∀ t c, s.connections[t]? = some c → returns ms t = if c.permit then 0 else 1
  givesBack : ∀ t c, s.connections[t]? = some c → c.isOver = true → c.permit = true → GivesBack s t c.rule
  /-- What is done for one rule does not touch the permits of another. -/
  apart : ∀ m s' j, s.step m = some s' → (∀ system, m ≠ .start (.bind system)) → s.ruleOf? m ≠ some j →
    s'.permits j = s.permits j

/-- **The cap on the connections of a rule**, whoever connects, fails, is refused or is aborted in whatever order. -/
theorem capped (rules : List Rule) (limits : Limits) (n : Nat) (ms : List Move) (s : Service)
    (hcap : limits.maxConnections = some n) (hmax : n ≤ Acceptor.maxPermits)
    (h : (forRules rules limits).run ms = some s) : Capped n ms s := by
  have hplaced := placed_of_run h
  refine ⟨?_, activeFor_le_cap h hcap, ?_, ?_, ?_⟩
  · intro i a p ha hstarted hp
    obtain ⟨hsound, hsum⟩ := balanced_of_run h i a ha
    have hcap' : a.cap = some n := by rw [hplaced.cap ha, limits_of_run h, hcap]
    -- a cap within `maxPermits` never breaks the acceptor, so all its permits were made
    have hwhole : a.stage ≠ .broken := by
      intro hbroken
      obtain ⟨k, hk, hlt⟩ := hsound.broken hbroken
      rw [hcap'] at hk
      obtain rfl := Option.some.inj hk
      exact Nat.not_lt.2 hmax hlt
    have hmade : a.made = n := by
      unfold Acceptor.made
      split
      · contradiction
      · contradiction
      · rw [hcap']
        rfl
    unfold permits at hp
    rw [ha] at hp
    obtain rfl := Option.some.inj hp
    exact hsum.trans hmade
  · intro t c hc
    have honce := (settled_of_run h).once t c.booking (getElem?_bookings_of hc)
    rw [hcap] at honce
    have hpermit : c.booking.permit = c.permit := rfl
    rw [hpermit] at honce
    cases hp : c.permit with
    | true =>
      rw [hp] at honce
      simpa using honce
    | false =>
      rw [hp] at honce
      simpa using honce
  · intro t c hc hover hpermit
    obtain ⟨a, ha⟩ := hplaced.exists_acceptor hc
    obtain ⟨rule, hrule⟩ := exists_rule_of_run h hc
    exact givesBack_of_isOver hc hrule ha hover hpermit
  · intro m s' j hs hm hj
    exact permits_of_lending (lending_of_step h hs) hm hj

/-- Two clients of one rule with a cap of one: the channel of the first is refused, and only when it has left is the
second accepted.  The acceptor of another rule meanwhile pauses after an error. -/
def refusedThenNext : List Move :=
  [.start .authenticate, .start (.established (.ok ())), .start (.bind (Listener.onHost [])), .start .announce,
    .accept 0 .start, .accept 1 .start, .accept 0 .takePermit, .accept 1 .takePermit,
    .outside (.connect 0 ⟨"127.0.0.1", 40000⟩), .outside (.connect 0 ⟨"127.0.0.1", 40001⟩), .accept 0 .accept,
    .enrol 0, .enrol 0, .enrol 0, .enrol 0, .enrol 0, .accept 1 .acceptFails, .work 0 .dial,
    .work 0 (.forward (.refused (.channelRefused "refused"))), .work 0 .finish, .letGo 0 .remove, .letGo 0 .countOut,
    .letGo 0 .returnPermit, .accept 0 .takePermit, .accept 0 .accept, .enrol 0, .enrol 0, .enrol 0, .enrol 0,
    .enrol 0, .work 1 .dial]

theorem capped_refusedThenNext :
    ∃ s, (forRules [⟨"127.0.0.1", 8080, "db", 5432⟩, ⟨"127.0.0.1", 8081, "web", 80⟩]
        { maxConnections := some 1 }).run refusedThenNext = some s ∧
      s.permits 0 = some ⟨0, 0, 1⟩ ∧ s.permits 1 = some ⟨0, 1, 0⟩ ∧ s.roster.activeFor 0 = 1 ∧
      Capped 1 refusedThenNext s := by
  have hend : ((forRules [⟨"127.0.0.1", 8080, "db", 5432⟩, ⟨"127.0.0.1", 8081, "web", 80⟩]
      { maxConnections := some 1 }).run refusedThenNext).map
      (fun s => (s.permits 0, s.permits 1, s.roster.activeFor 0)) =
      some (some ⟨0, 0, 1⟩, some ⟨0, 1, 0⟩, 1) := by
    decide +kernel
  obtain ⟨s, hs, hshown⟩ := Option.map_eq_some_iff.1 hend
  obtain ⟨hfirst, hrest⟩ := Prod.mk.inj hshown
  obtain ⟨hsecond, hactive⟩ := Prod.mk.inj hrest
  exact ⟨s, hs, hfirst, hsecond, hactive, capped _ _ 1 _ s rfl (by decide) hs⟩

end Service

end SshTunnel

import Mathlib.Algebra.GroupWithZero.Nat
import SshTunnel.Proofs.Relay.Flow
import SshTunnel.Proofs.Roster.Ledger
import SshTunnel.Proofs.Service.Setup

/-!
What connections relay.  Each reads from its own client and its own channel only, asks for its channel once, and is
counted with its own rule.
-/

namespace SshTunnel

/-- The counter of a direction. -/
def Stats.moved (st : Stats) : Way → UInt64
  | .up => st.sent
  | .down => st.received

namespace Connection

variable {t : Forwarder.Target} {force : Bool} {c c' : Connection} {m : Move}

/-- What a move of a task is to its forwarder.  A task that is told to close before it has run gives up like one
that is dialing. -/
def Move.forwarder? : Move → Option Forwarder.Move
  | forward m => some m
  | skip => some .abandon
  | _ => none

theorem Move.eq_of_forwarder? {bm : Bridge.Move} (h : m.forwarder? = some (.relay bm)) : m = .forward (.relay bm) := by
  cases m with
  | forward fm => rw [Option.some.inj h]
  | _ => cases h

/-- How far a task has come.  One that has not run yet has still to dial. -/
def reached (c : Connection) : Forwarder := c.forwarder.getD .dialing

theorem flow_reached (c : Connection) (w : Way) : c.flow w = c.reached.flow w := by
  unfold flow reached Forwarder.flow
  cases c.forwarder with
  | none => rfl
  | some f => rfl

theorem Works.reached (h : c.Works t force m c') :
    m.forwarder? = none ∧ c'.reached = c.reached ∨
      ∃ fm, m.forwarder? = some fm ∧ c.reached.step t force fm = some c'.reached := by
  cases h with
  | dial hnew hlive =>
    refine Or.inl ⟨rfl, ?_⟩
    unfold Connection.reached
    rw [hnew]
    rfl
  | skip hnew hlive hforce =>
    refine Or.inr ⟨_, rfl, ?_⟩
    unfold Connection.reached
    rw [hnew, hforce]
    rfl
  | forward fm f f' hf hmay hstep =>
    refine Or.inr ⟨fm, rfl, ?_⟩
    unfold Connection.reached
    rw [hf]
    exact hstep
  | _ => exact Or.inl ⟨rfl, rfl⟩

/-- What a task does is a step of one of its directions, or leaves both as they are. -/
theorem Works.flow (h : c.Works t force m c') :
    (∀ w, c'.flow w = c.flow w) ∨
      ∃ w fm, m = .forward (.relay (.flow w fm)) ∧ (c.flow w).step fm = some (c'.flow w) ∧
        c'.flow w.other = c.flow w.other := by
  simp only [flow_reached]
  rcases h.reached with ⟨-, hsame⟩ | ⟨fm, hfm, hstep⟩
  · rw [hsame]
    exact Or.inl fun _ => rfl
  · rcases Forwarder.flow_of_step hstep with hsame | ⟨w, x, rfl, hx, hother⟩
    · exact Or.inl hsame
    · exact Or.inr ⟨w, x, Move.eq_of_forwarder? hfm, hx, hother⟩

/-- Nothing that was counted for a connection is taken back. -/
theorem Works.counted_le (h : c.Works t force m c') (w : Way) : (c.flow w).counted ≤ (c'.flow w).counted := by
  rcases h.flow with hsame | ⟨v, fm, -, hstep, hother⟩
  · rw [hsame]
  · by_cases hw : w = v
    · subst hw
      exact Flow.counted_le_of_step hstep
    · rw [Way.eq_other_of_ne hw, hother]

end Connection

namespace Service

variable {s s' : Service} {m : Move} {ms : List Move} {rules : List Rule} {limits : Limits} {i j : Nat}
  {t : TaskId} {c c' : Connection} {w : Way}

/-! ### Sources -/

theorem prefix_of_modify (l : List Bytes) (k : Nat) (b : Bytes) (n : Nat) :
    l[n]?.getD [] <+: (l.modify k (· ++ b))[n]?.getD [] := by
  rw [List.getElem?_modify]
  cases l[n]? with
  | none => exact List.prefix_rfl
  | some x =>
    dsimp only [Option.map_some, Option.getD_some]
    split
    · exact List.prefix_append ..
    · exact List.prefix_rfl

theorem prefix_of_append (l : List Bytes) (n : Nat) : l[n]?.getD [] <+: (l ++ [[]])[n]?.getD [] := by
  by_cases hn : n < l.length
  · rw [List.getElem?_append_left hn]
  · rw [List.getElem?_eq_none (Nat.le_of_not_lt hn)]
    exact List.nil_prefix

/-- What clients send, and what comes out of channels, is added to what there was. -/
theorem source_mono (h : Effect s m s') (t : TaskId) (hclient : c'.client = c.client) (w : Way) :
    s.source t c w <+: s'.source t c' w := by
  unfold source
  rw [hclient]
  -- streams are only ever appended to, those of new clients and channels being empty
  cases h with
  | aside hm hsame =>
    rw [hsame.clientStreams, hsame.channelStreams]
  | connect i a peer ha hopen =>
    cases w
    · exact prefix_of_append ..
    · exact List.prefix_rfl
  | clientSends n b =>
    cases w
    · exact prefix_of_modify ..
    · exact List.prefix_rfl
  | channelSends u b =>
    cases w
    · exact List.prefix_rfl
    · exact prefix_of_modify ..
  | spawn i a cl id ha hst =>
    cases w
    · exact List.prefix_rfl
    · exact prefix_of_append ..
  | _ => exact List.prefix_rfl

/-- Every direction of every connection passes on what comes from its own source. -/
def Faithful (s : Service) : Prop :=
  ∀ (t : TaskId) (c : Connection) (w : Way), s.connections[t]? = some c → (c.flow w).Faithful (s.source t c w)

/-- The task of a connection reads what comes next in its sources. -/
theorem Faithful.works {target : Forwarder.Target} {force : Bool} {cm : Connection.Move} (h : Faithful s)
    (hc : s.connections[t]? = some c) (hagree : c.agrees (s.source t c) cm = true)
    (hwork : c.Works target force cm c') (w : Way) : (c'.flow w).Faithful (s.source t c w) := by
  -- the task moves one direction at most, and what it reads was checked against the source
  rcases hwork.flow with hsame | ⟨v, fm, rfl, hstep, hother⟩
  · rw [hsame]
    exact h t c w hc
  · by_cases hw : w = v
    · subst hw
      refine (h t c w hc).step ?_ hstep
      rintro chunk rfl
      exact List.isPrefixOf_iff_prefix.1 hagree
    · rw [Way.eq_other_of_ne hw, hother]
      exact h t c v.other hc

theorem Faithful.step (h : Faithful s) (heff : Effect s m s') : Faithful s' := by
  -- what was faithful to a source is faithful to a longer one
  have hold : ∀ {t : TaskId} {c : Connection} {w : Way}, s.connections[t]? = some c →
      (c.flow w).Faithful (s'.source t c w) := by
    intro t c w hc
    exact (h t c w hc).mono (source_mono heff t rfl w)
  have hset : ∀ {u : TaskId} {d d' : Connection}, s.connections[u]? = some d →
      (∀ w, (d'.flow w).Faithful (s'.source u d' w)) → ∀ (t : TaskId) (c : Connection) (w : Way),
      (s.connections.set u d')[t]? = some c → (c.flow w).Faithful (s'.source t c w) := by
    intro u d d' hd hnew t c w hc
    rcases getElem?_set_eq_some hc with ⟨rfl, rfl⟩ | ⟨-, hc⟩
    · exact hnew w
    · exact hold hc
  have heff' := heff
  cases heff with
  | aside hm hsame =>
    intro t c w hc
    rw [hsame.connections] at hc
    exact hold hc
  | abort lost hst =>
    intro t c w hc
    have hc' : (s.abortAll.connections)[t]? = some c := hc
    unfold abortAll at hc'
    dsimp only at hc'
    rw [List.getElem?_mapIdx] at hc'
    obtain ⟨d, hd, rfl⟩ := Option.map_eq_some_iff.1 hc'
    split
    · exact hold (c := d) hd
    · exact hold hd
  | spawn i a cl id ha hst =>
    intro t c w hc
    -- a new connection has read nothing yet
    by_cases ht : t < s.connections.length
    · rw [List.getElem?_append_left ht] at hc
      exact hold hc
    · rw [List.getElem?_append_right (Nat.le_of_not_lt ht), List.getElem?_singleton] at hc
      split at hc
      · obtain rfl := Option.some.inj hc
        exact Flow.faithful_fresh _
      · cases hc
  | dial u d rule hd hrule hidle hlive => exact hset hd fun w => Flow.faithful_fresh _
  | work u cm d d' rule hm hd hrule hagree hwork =>
    refine hset hd fun w => ?_
    exact (h.works hd hagree hwork w).mono (source_mono heff' u (congrArg Booking.client hwork.booking) w)
  | remove u d hd hdone hheld hfirst => exact hset hd fun w => hold (c := d) hd
  | countOut u d hd hremoved => exact hset hd fun w => hold (c := d) hd
  | returnPermit u d a hd ha hdone hpermit hlast => exact hset hd fun w => hold (c := d) hd
  | _ => exact fun t c w hc => hold hc

theorem faithful_of_run (h : (forRules rules limits).run ms = some s) : Faithful s := by
  refine run_induction (P := fun _ s => Faithful s) ?_ ?_ h
  · exact fun t c w hc => absurd hc (by simp [forRules])
  · exact fun _ _ _ _ _ hall hs => hall.step (effect_of_step hs)

/-! ### Channels -/

/-- Every request for a channel is made for a connection, to the target of its rule and with its client's address,
and no connection makes two. -/
structure Dialled (s : Service) : Prop where
  each : ∀ d ∈ s.dials, ∃ c rule, s.connections[d.task]? = some c ∧ c.forwarder.isSome = true ∧
    s.rules[c.rule]? = some rule ∧ d.host = rule.host ∧ d.port = rule.port ∧ d.origin = c.client.peer
  once : (s.dials.map Dial.task).Nodup

theorem Dialled.step (h : Dialled s) (hs : s.step m = some s') : Dialled s' := by
  have heff := effect_of_step hs
  -- requests of before: their connections are still there, with a forwarder and the same rule
  have hold : ∀ d ∈ s.dials, ∃ c rule, s'.connections[d.task]? = some c ∧ c.forwarder.isSome = true ∧
      s'.rules[c.rule]? = some rule ∧ d.host = rule.host ∧ d.port = rule.port ∧ d.origin = c.client.peer := by
    intro d hd
    obtain ⟨c, rule, hc, hsome, hrule, hhost, hport, horigin⟩ := h.each d hd
    obtain ⟨c', hc', hlater⟩ := exists_later heff hc
    refine ⟨c', rule, hc', hlater.forwarder hsome, ?_, hhost, hport, ?_⟩
    · rw [rules_step hs, hlater.rule]
      exact hrule
    · rw [hlater.client]
      exact horigin
  cases heff with
  | aside hm hsame =>
    refine ⟨?_, ?_⟩
    · rw [hsame.dials]
      exact hold
    · rw [hsame.dials]
      exact h.once
  | dial t c rule hc hrule hidle hlive =>
    refine ⟨?_, ?_⟩
    · intro d hd
      rcases List.mem_append.1 hd with hd | hd
      · exact hold d hd
      · obtain rfl := List.mem_singleton.1 hd
        exact ⟨_, rule, getElem?_set_of_getElem? hc _, rfl, hrule, rfl, rfl, rfl⟩
    · dsimp only
      rw [List.map_append, List.nodup_append]
      refine ⟨h.once, List.nodup_singleton _, ?_⟩
      intro u hu v hv
      obtain ⟨d, hd, rfl⟩ := List.mem_map.1 hu
      have hvt : v = t := List.mem_singleton.1 hv
      obtain ⟨c', rule', hc', hsome, -⟩ := h.each d hd
      -- a connection that asked before has a forwarder by now, but this one had none
      intro heq
      have hthere : s.connections[t]? = some c' := by
        rw [← hvt, ← heq]
        exact hc'
      rw [hc] at hthere
      obtain rfl := Option.some.inj hthere
      rw [hidle] at hsome
      cases hsome
  | _ => exact ⟨hold, h.once⟩

theorem dialled_of_run (h : (forRules rules limits).run ms = some s) : Dialled s := by
  refine run_induction (P := fun _ s => Dialled s) ?_ ?_ h
  · exact ⟨nofun, List.nodup_nil⟩
  · exact fun _ _ _ _ _ hdialled hs => hdialled.step hs

/-! ### Counters -/

/-- What was counted for the connections of a rule. -/
def carried (s : Service) (w : Way) (j : Nat) : Nat :=
  ((s.connections.filter fun c => c.rule = j).map fun c => (c.flow w).counted).sum

theorem carried_congr (h : s'.connections.map (fun c => (c.rule, (c.flow w).counted)) =
    s.connections.map fun c => (c.rule, (c.flow w).counted)) (j : Nat) : s'.carried w j = s.carried w j := by
  -- the sum only looks at the rules and the counts
  have hfactor : ∀ l : List Connection, (l.filter fun c => c.rule = j).map (fun c => (c.flow w).counted) =
      ((l.map fun c => (c.rule, (c.flow w).counted)).filter fun x => x.1 = j).map Prod.snd := by
    intro l
    rw [List.filter_map, List.map_map]
    rfl
  unfold carried
  rw [hfactor, hfactor, h]

/-- A connection that relays on. -/
theorem carried_setConnection (hc : s.connections[t]? = some c) (hrule : c'.rule = c.rule)
    (hle : (c.flow w).counted ≤ (c'.flow w).counted) (j : Nat) :
    (s.setConnection t c').carried w j =
      s.carried w j + if c.rule = j then (c'.flow w).counted - (c.flow w).counted else 0 := by
  obtain ⟨rest, hbefore, hafter⟩ := exists_perm_set hc c'
  unfold carried setConnection
  rw [((hbefore.filter _).map _).sum_eq, ((hafter.filter _).map _).sum_eq, List.filter_cons, List.filter_cons, hrule]
  by_cases hj : c.rule = j
  · simp only [hj, decide_true, if_true, List.map_cons, List.sum_cons]
    omega
  · simp only [hj, decide_false, Bool.false_eq_true, if_false, Nat.add_zero]

theorem moved_sentMore (st : Stats) (n : Nat) (w : Way) :
    (st.sentMore n).moved w = st.moved w + if w = .up then UInt64.ofNat n else 0 := by
  cases w
  · rfl
  · exact (UInt64.add_zero _).symm

theorem moved_receivedMore (st : Stats) (n : Nat) (w : Way) :
    (st.receivedMore n).moved w = st.moved w + if w = .down then UInt64.ofNat n else 0 := by
  cases w
  · exact (UInt64.add_zero _).symm
  · rfl

/-- A counter after a move of a task, which counts with its own rule only. -/
theorem stats?_countBytes (r : Roster) (st : Stats) (h : (countBytes c c' r).stats? j = some st) :
    ∃ old, r.stats? j = some old ∧
      ∀ w, st.moved w = old.moved w +
        UInt64.ofNat (if c'.rule = j then (c'.flow w).counted - (c.flow w).counted else 0) := by
  unfold countBytes at h
  rw [Roster.stats?_count, Roster.stats?_count] at h
  by_cases hj : c'.rule = j
  · rw [if_pos hj, if_pos hj] at h
    rw [Option.map_map] at h
    obtain ⟨old, hold, rfl⟩ := Option.map_eq_some_iff.1 h
    refine ⟨old, hold, fun w => ?_⟩
    dsimp only [Function.comp]
    rw [if_pos hj, moved_receivedMore, moved_sentMore]
    -- one counter takes what this direction counted, the other one is for the other direction
    cases w
    · exact UInt64.add_zero _
    · exact congrArg (· + _) (UInt64.add_zero _)
  · rw [if_neg hj, if_neg hj] at h
    refine ⟨st, h, fun w => ?_⟩
    rw [if_neg hj]
    exact (UInt64.add_zero _).symm

/-- The counters of a rule show what was counted for its connections. -/
def Tallied (s : Service) : Prop :=
  ∀ (j : Nat) (st : Stats) (w : Way), s.roster.stats? j = some st → st.moved w = UInt64.ofNat (s.carried w j)

/-- A move that counts no connections, or only how many there are. -/
theorem Tallied.same (h : Tallied s) (hcarried : ∀ w j, s'.carried w j = s.carried w j)
    (hstats : ∀ j st, s'.roster.stats? j = some st →
      ∃ old, s.roster.stats? j = some old ∧ ∀ w, st.moved w = old.moved w) :
    Tallied s' := by
  intro j st w hst
  obtain ⟨old, hold, hmoved⟩ := hstats j st hst
  rw [hmoved, hcarried]
  exact h j old w hold

theorem Tallied.count (h : Tallied s) (hcarried : ∀ w j, s'.carried w j = s.carried w j) (rule : Nat)
    (f : Stats → Stats) (hf : ∀ st w, (f st).moved w = st.moved w) (hroster : s'.roster = s.roster.count rule f) :
    Tallied s' := by
  refine h.same hcarried fun j st hst => ?_
  rw [hroster, Roster.stats?_count] at hst
  split at hst
  · obtain ⟨old, hold, rfl⟩ := Option.map_eq_some_iff.1 hst
    exact ⟨old, hold, hf old⟩
  · exact ⟨st, hst, fun _ => rfl⟩

/-- The task of a connection relays on. -/
theorem Tallied.works {target : Forwarder.Target} {force : Bool} {cm : Connection.Move} (h : Tallied s)
    (hc : s.connections[t]? = some c) (hwork : c.Works target force cm c')
    (hconn : s'.connections = s.connections.set t c') (hroster : s'.roster = countBytes c c' s.roster) :
    Tallied s' := by
  intro j st w hst
  have hrule : c'.rule = c.rule := congrArg Booking.rule hwork.booking
  rw [hroster] at hst
  obtain ⟨old, hold, hmoved⟩ := stats?_countBytes s.roster st hst
  have hcarried : s'.carried w j = (s.setConnection t c').carried w j := by
    unfold carried
    rw [hconn]
    rfl
  rw [hmoved, hcarried, carried_setConnection hc hrule (hwork.counted_le w), UInt64.ofNat_add, h j old w hold, hrule]

theorem Tallied.step (h : Tallied s) (heff : Effect s m s') : Tallied s' := by
  -- a change to a connection that moves no bytes
  have hkept : ∀ {u : TaskId} {d : Connection}, s.connections[u]? = some d → ∀ d' : Connection, d'.rule = d.rule →
      (∀ w, d'.flow w = d.flow w) → ∀ w j, (s.setConnection u d').carried w j = s.carried w j := by
    intro u d hd d' hrule hflow w j
    refine carried_congr (map_set_of_eq hd ?_) j
    rw [hrule, hflow]
  cases heff with
  | aside hm hsame =>
    refine h.same (fun w j => carried_congr (by rw [hsame.connections]) j) ?_
    rw [hsame.roster]
    exact fun j st hst => ⟨st, hst, fun _ => rfl⟩
  | abort lost hst =>
    refine h.same (fun w j => carried_congr ?_ j) fun j st hst => ⟨st, hst, fun _ => rfl⟩
    -- who is aborted has counted what it had counted
    unfold abortAll
    refine List.ext_getElem? fun t => ?_
    dsimp only
    rw [List.getElem?_map, List.getElem?_map, List.getElem?_mapIdx, Option.map_map]
    refine congrArg (fun f => Option.map f s.connections[t]?) (funext fun c => ?_)
    dsimp only [Function.comp]
    split
    · rfl
    · rfl
  | count i a cl id ha hst => exact h.count (fun _ _ => rfl) i Stats.connected (fun st w => by cases w <;> rfl) rfl
  | spawn i a cl id ha hst =>
    refine h.same (fun w j => ?_) fun j st hst => ⟨st, hst, fun _ => rfl⟩
    unfold carried
    rw [List.filter_append, List.map_append, List.sum_append]
    -- the new connection has counted nothing
    refine Nat.add_eq_left.2 ?_
    rw [List.filter_cons]
    split
    · rfl
    · rfl
  | note i a id task ha hst => exact h.same (fun _ _ => rfl) fun j st hst => ⟨st, hst, fun _ => rfl⟩
  | dial u d rule hd hrule hidle hlive =>
    have hdial : d.Works ⟨rule.remoteAddr, s.limits.dial⟩ s.isForced .dial { d with forwarder := some .dialing } :=
      .dial hidle hlive
    exact h.works hd hdial rfl rfl
  | work u cm d d' rule hm hd hrule hagree hwork => exact h.works hd hwork rfl rfl
  | remove u d hd hdone hheld hfirst =>
    exact h.same (hkept hd { d with guard := .removed } rfl fun _ => rfl) fun j st hst => ⟨st, hst, fun _ => rfl⟩
  | countOut u d hd hremoved =>
    exact h.count (hkept hd { d with guard := .released } rfl fun _ => rfl) d.rule Stats.disconnected
      (fun st w => by cases w <;> rfl) rfl
  | returnPermit u d a hd ha hdone hpermit hlast =>
    exact h.same (hkept hd { d with permit := false } rfl fun _ => rfl) fun j st hst => ⟨st, hst, fun _ => rfl⟩
  | _ => exact h.same (fun _ _ => rfl) fun j st hst => ⟨st, hst, fun _ => rfl⟩

theorem tallied_of_run (h : (forRules rules limits).run ms = some s) : Tallied s := by
  refine run_induction (P := fun _ s => Tallied s) ?_ ?_ h
  · intro j st w hst
    have hfresh : st = {} := (List.mem_replicate.1 (List.mem_of_getElem? hst)).2
    rw [hfresh]
    cases w
    · rfl
    · rfl
  · exact fun _ _ _ _ _ htallied hs => htallied.step (effect_of_step hs)

end Service

end SshTunnel

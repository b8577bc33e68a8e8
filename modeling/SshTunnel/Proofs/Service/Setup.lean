import SshTunnel.Proofs.Listener.Binding
import SshTunnel.Proofs.Service.Effects

/-!
What is in place at which stage.  Before all rules are listened for there is nobody to serve and nothing to
serve with; from then on there is one listener and one acceptor for each rule, for good.
-/

namespace SshTunnel

/-- The rules are not listened for, or not any more since one of them could not be. -/
def Stage.isEarly : Stage → Bool
  | launching | running | draining .. | finished _ => false
  | _ => true

/-- All acceptors are known to have ended. -/
def Stage.isJoined : Stage → Bool
  | draining _ d => d.isJoined
  | finished _ => true
  | _ => false

namespace Service

variable {s s' : Service} {m : Move} {ms : List Move} {rules : List Rule} {limits : Limits}

theorem run_snoc {s₀ : Service} (h : s₀.run ms = some s) (hs : s.step m = some s') : s₀.run (ms ++ [m]) = some s' :=
  isRun.snoc h hs

theorem isEarly_of_step (h : s.step m = some s') (hearly : s'.stage.isEarly = true) : s.stage.isEarly = true := by
  rcases step_cases h with ⟨x, -, hx⟩ | ⟨x, -, hx⟩ | ⟨-, -, hk⟩
  · cases hx
    all_goals simp_all [publish, Stage.isEarly]
  · cases hx
    all_goals simp_all [publish, Stage.isEarly]
  · rw [← hk.stage]
    exact hearly

theorem late_of_step (h : s.step m = some s') (hlate : s'.stage.isEarly = false) :
    s.stage.isEarly = false ∨ ∃ system, m = .start (.bind system) := by
  rcases step_cases h with ⟨x, rfl, hx⟩ | ⟨x, -, hx⟩ | ⟨-, -, hk⟩
  · cases hx
    all_goals simp_all [publish, Stage.isEarly]
  · cases hx
    all_goals simp_all [publish, Stage.isEarly]
  · rw [← hk.stage]
    exact Or.inl hlate

/-- Once all rules are listened for, the listeners are those for good. -/
theorem listeners_step (h : s.step m = some s') (hlate : s.stage.isEarly = false) :
    s'.stage.isEarly = false ∧ s'.listeners = s.listeners := by
  refine ⟨?_, ?_⟩
  · by_contra hearly
    rw [isEarly_of_step h ((Bool.not_eq_false _).mp hearly)] at hlate
    cases hlate
  · cases effect_of_step h with
    | aside hm hsame => exact hsame.listeners
    | bound system ls hst hls =>
      rw [hst] at hlate
      cases hlate
    | _ => rfl

/-- Once they have, they have for good. -/
theorem isJoined_of_step (h : s.step m = some s') (hj : s.stage.isJoined = true) : s'.stage.isJoined = true := by
  rcases step_cases h with ⟨x, -, hx⟩ | ⟨x, -, hx⟩ | ⟨-, -, hk⟩
  · cases hx
    all_goals simp_all [Stage.isJoined]
  · cases hx with
    | overdue lost d next hst hd hbusy => exact (isJoined_of_afterWait hd).2.1
    | drain lost hst =>
      rw [hst] at hj
      cases hj
    | stopAccepting lost hst =>
      rw [hst] at hj
      cases hj
    | _ => rfl
  · rw [hk.stage]
    exact hj

theorem Lawful.closed_of_isJoined (h : Lawful s) (hj : s.stage.isJoined = true) :
    ∀ a ∈ s.acceptors, a.isOpen = false := by
  refine h.shut ?_
  cases hs : s.stage with
  | draining lost d =>
    rw [hs] at hj
    exact hj
  | finished lost => rfl
  | _ =>
    rw [hs] at hj
    cases hj

/-! ### Before -/

/-- Nothing is open and nobody is there. -/
structure Vacant (s : Service) : Prop where
  listeners : s.listeners = []
  acceptors : s.acceptors = []
  connections : s.connections = []
  clientStreams : s.clientStreams = []
  channelStreams : s.channelStreams = []
  dials : s.dials = []
  roster : s.roster = Roster.forRules s.rules.length

theorem Vacant.step (h : Vacant s) (hs : s.step m = some s') (hearly : s'.stage.isEarly = true) : Vacant s' := by
  have hnobody : ∀ {i : Nat} {a : Acceptor}, s.acceptors[i]? = some a → False := by
    intro i a ha
    rw [h.acceptors] at ha
    cases ha
  have hnone : ∀ {t : TaskId} {c : Connection}, s.connections[t]? = some c → False := by
    intro t c hc
    rw [h.connections] at hc
    cases hc
  -- what needs an acceptor or a connection cannot happen; listening and aborting end the early stages
  cases effect_of_step hs with
  | aside hm hsame =>
    refine ⟨?_, ?_, ?_, ?_, ?_, ?_, ?_⟩
    · rw [hsame.listeners, h.listeners]
    · rw [hsame.acceptors, h.acceptors]
    · rw [hsame.connections, h.connections]
    · rw [hsame.clientStreams, h.clientStreams]
    · rw [hsame.channelStreams, h.channelStreams]
    · rw [hsame.dials, h.dials]
    · rw [hsame.roster, hsame.rules, h.roster]
  | bound system ls hst hls => cases hearly
  | abort lost hst => cases hearly
  | clientSends n b =>
    refine ⟨h.listeners, h.acceptors, h.connections, ?_, h.channelStreams, h.dials, h.roster⟩
    simp [h.clientStreams]
  | channelSends t b =>
    refine ⟨h.listeners, h.acceptors, h.connections, h.clientStreams, ?_, h.dials, h.roster⟩
    simp [h.channelStreams]
  | connect i a peer ha => exact (hnobody ha).elim
  | accept i a a' am ha => exact (hnobody ha).elim
  | number i a c ha => exact (hnobody ha).elim
  | enter i a c id ha => exact (hnobody ha).elim
  | count i a c id ha => exact (hnobody ha).elim
  | spawn i a c id ha => exact (hnobody ha).elim
  | note i a id task ha => exact (hnobody ha).elim
  | dial t c rule hc => exact (hnone hc).elim
  | work t cm c c' rule hm hc => exact (hnone hc).elim
  | remove t c hc => exact (hnone hc).elim
  | countOut t c hc => exact (hnone hc).elim
  | returnPermit t c a hc => exact (hnone hc).elim

theorem vacant_of_run (h : (forRules rules limits).run ms = some s) (hearly : s.stage.isEarly = true) : Vacant s := by
  revert hearly
  -- a stage that is early has only early ones before it
  refine run_induction (P := fun _ s => s.stage.isEarly = true → Vacant s) ?_ ?_ h
  · exact fun _ => ⟨rfl, rfl, rfl, rfl, rfl, rfl, rfl⟩
  · intro _ _ _ _ _ hvacant hs hearly
    exact (hvacant (isEarly_of_step hs hearly)).step hs hearly

/-! ### From then on -/

/-- There is an acceptor for each listener, with the cap of all, and every connection came in by one of them. -/
structure Placed (s : Service) : Prop where
  acceptors : s.acceptors.length = s.listeners.length
  caps : ∀ a ∈ s.acceptors, a.cap = s.limits.maxConnections
  bookings : ∀ b ∈ s.bookings, b.rule < s.acceptors.length
  channels : s.channelStreams.length = s.connections.length

theorem Placed.cap {i : Nat} {a : Acceptor} (h : Placed s) (ha : s.acceptors[i]? = some a) :
    a.cap = s.limits.maxConnections :=
  h.caps a (List.mem_of_getElem? ha)

theorem Placed.exists_acceptor {t : TaskId} {c : Connection} (h : Placed s) (hc : s.connections[t]? = some c) :
    ∃ a, s.acceptors[c.rule]? = some a := by
  have hlt := h.bookings _ (List.mem_of_getElem? (getElem?_bookings_of hc))
  exact ⟨_, List.getElem?_eq_getElem hlt⟩

/-- Another state of one acceptor. -/
theorem Placed.setAcceptor {i : Nat} {a : Acceptor} (h : Placed s) (ha : s.acceptors[i]? = some a) (a' : Acceptor)
    (hcap : a'.cap = a.cap) : Placed (s.setAcceptor i a') := by
  refine ⟨?_, ?_, ?_, h.channels⟩
  · exact (List.length_set ..).trans h.acceptors
  · intro b hb
    rcases List.mem_or_eq_of_mem_set hb with hb | rfl
    · exact h.caps b hb
    · exact hcap.trans (h.cap ha)
  · intro b hb
    exact Nat.lt_of_lt_of_eq (h.bookings b hb) (List.length_set ..).symm

/-- Another state of one connection. -/
theorem Placed.setConnection {t : TaskId} {c : Connection} (h : Placed s) (hc : s.connections[t]? = some c)
    (c' : Connection) (hrule : c'.rule = c.rule) : Placed (s.setConnection t c') := by
  refine ⟨h.acceptors, h.caps, ?_, ?_⟩
  · intro b hb
    obtain ⟨d, hd, rfl⟩ := List.mem_map.1 hb
    rcases List.mem_or_eq_of_mem_set hd with hd | rfl
    · exact h.bookings _ (List.mem_map_of_mem hd)
    · have hlt := h.bookings _ (List.mem_map_of_mem (List.mem_of_getElem? hc))
      exact Nat.lt_of_le_of_lt (Nat.le_of_eq hrule) hlt
  · exact h.channels.trans (List.length_set ..).symm

/-- What else a move may change has no part in this. -/
theorem Placed.congr (h : Placed s) (hacc : s'.acceptors = s.acceptors) (hlisteners : s'.listeners = s.listeners)
    (hlimits : s'.limits = s.limits) (hconn : s'.connections = s.connections)
    (hstreams : s'.channelStreams = s.channelStreams) : Placed s' := by
  refine ⟨?_, ?_, ?_, ?_⟩
  · rw [hacc, hlisteners, h.acceptors]
  · rw [hacc, hlimits]
    exact h.caps
  · have hbook : s'.bookings = s.bookings := congrArg (List.map Connection.booking) hconn
    rw [hacc, hbook]
    exact h.bookings
  · rw [hstreams, hconn, h.channels]

theorem Placed.step (h : Placed s) (hv : s.stage.isEarly = true → Vacant s) (hs : s.step m = some s') :
    Placed s' := by
  -- most moves change one acceptor or one connection; the roster, which they change too, has no part in this
  cases effect_of_step hs with
  | aside hm hsame =>
    exact h.congr hsame.acceptors hsame.listeners hsame.limits hsame.connections hsame.channelStreams
  | bound system ls hst hls =>
    -- an acceptor is made for each listener, before there is any connection
    have hvac := hv (by rw [hst]; rfl)
    refine ⟨List.length_map .., ?_, ?_, h.channels⟩
    · intro a ha
      obtain ⟨l, -, rfl⟩ := List.mem_map.1 ha
      rfl
    · intro b hb
      have hnone : b ∈ s.connections.map Connection.booking := hb
      rw [hvac.connections] at hnone
      cases hnone
  | abort lost hst =>
    have hb : s.abortAll.bookings = s.bookings := bookings_abortAll s
    refine ⟨h.acceptors, h.caps, ?_, ?_⟩
    · exact fun b hmem => h.bookings b (hb ▸ hmem)
    · exact h.channels.trans (List.length_mapIdx ..).symm
  | connect i a peer ha hopen =>
    exact (h.setAcceptor ha { a with backlog := a.backlog ++ [⟨s.clientStreams.length, peer⟩] } rfl).congr
      rfl rfl rfl rfl rfl
  | clientSends n b => exact h.congr rfl rfl rfl rfl rfl
  | channelSends t b => exact ⟨h.acceptors, h.caps, h.bookings, (List.length_modify ..).trans h.channels⟩
  | accept i a a' am ha hstep => exact h.setAcceptor ha a' hstep.cap
  | number i a c ha hst =>
    exact (h.setAcceptor ha { a with stage := .numbered c s.roster.nextId } rfl).congr rfl rfl rfl rfl rfl
  | enter i a c id ha hst =>
    exact (h.setAcceptor ha { a with stage := .entered c id } rfl).congr rfl rfl rfl rfl rfl
  | count i a c id ha hst =>
    exact (h.setAcceptor ha { a with stage := .counted c id } rfl).congr rfl rfl rfl rfl rfl
  | spawn i a c id ha hst =>
    obtain ⟨hacc, hcaps, hbook, hchan⟩ := h.setAcceptor ha
      { a with stage := .spawned id s.connections.length, permit := false } rfl
    -- the new connection is of the rule of its acceptor, and gets its channel stream with it
    refine ⟨hacc, hcaps, ?_, ?_⟩
    · intro b hb
      obtain ⟨d, hd, rfl⟩ := List.mem_map.1 hb
      rcases List.mem_append.1 hd with hd | hd
      · exact hbook _ (List.mem_map_of_mem hd)
      · obtain rfl := List.mem_singleton.1 hd
        exact Nat.lt_of_lt_of_eq (length_of_getElem? ha) (List.length_set ..).symm
    · have hlen := h.channels
      simp only [List.length_append, List.length_singleton, hlen]
  | note i a id task ha hst =>
    exact (h.setAcceptor ha { a with stage := .ready } rfl).congr rfl rfl rfl rfl rfl
  | dial t c rule hc hrule hnew hlive =>
    exact (h.setConnection hc { c with forwarder := some .dialing } rfl).congr rfl rfl rfl rfl rfl
  | work t cm c c' rule hm hc hrule hagree hwork =>
    exact (h.setConnection hc c' (congrArg Booking.rule hwork.booking)).congr rfl rfl rfl rfl rfl
  | remove t c hc hdone hheld hfirst =>
    exact (h.setConnection hc { c with guard := .removed } rfl).congr rfl rfl rfl rfl rfl
  | countOut t c hc hremoved =>
    exact (h.setConnection hc { c with guard := .released } rfl).congr rfl rfl rfl rfl rfl
  | returnPermit t c a hc ha hdone hpermit hlast =>
    have hback := h.setConnection hc { c with permit := false } rfl
    exact hback.setAcceptor ha { a with free := a.free + 1 } rfl

theorem placed_of_run (h : (forRules rules limits).run ms = some s) : Placed s := by
  refine run_induction (P := fun _ s => Placed s) ?_ ?_ h
  · exact ⟨rfl, by simp [forRules], by simp [forRules, bookings], rfl⟩
  · exact fun _ _ _ _ hrun hplaced hs => hplaced.step (vacant_of_run hrun) hs

theorem limits_step (h : s.step m = some s') : s'.limits = s.limits := by
  cases effect_of_step h with
  | aside hm hparts => exact hparts.limits
  | _ => rfl

theorem limits_of_run (h : (forRules rules limits).run ms = some s) : s.limits = limits := by
  refine run_induction (P := fun _ s => s.limits = limits) rfl ?_ h
  exact fun _ _ _ _ _ hsame hs => (limits_step hs).trans hsame

/-- From then on the listeners are those of the rules. -/
theorem opens_of_run (h : (forRules rules limits).run ms = some s) (hlate : s.stage.isEarly = false) :
    ∃ system, Listener.Opens system rules s.listeners := by
  revert hlate
  refine run_induction
    (P := fun _ s => s.stage.isEarly = false → ∃ system, Listener.Opens system rules s.listeners) ?_ ?_ h
  · exact nofun
  intro ms m s s' hrun hopens hs hlate
  -- the listeners stay as they are from the binding on
  rcases late_of_step hs hlate with hbefore | ⟨system, rfl⟩
  · rw [(listeners_step hs hbefore).2]
    exact hopens hbefore
  · refine ⟨system, ?_⟩
    cases starts_of_start hs with
    | unbound _ f hst hf => cases hlate
    | bound _ ls hst hls =>
      have hbound := Listener.opens_of_bindAll hls
      rw [(recorded_of_run hrun).same] at hbound
      exact hbound

/-- The acceptor of a rule has the listener of that rule. -/
theorem exists_listener {i : Nat} {a : Acceptor} (h : (forRules rules limits).run ms = some s)
    (ha : s.acceptors[i]? = some a) :
    ∃ l : Listener, s.listeners[i]? = some l ∧ l.index = i ∧ rules[i]? = some l.rule := by
  have hlate : s.stage.isEarly = false := by
    by_contra hearly
    rw [(vacant_of_run h ((Bool.not_eq_false _).mp hearly)).acceptors] at ha
    cases ha
  obtain ⟨system, hopens⟩ := opens_of_run h hlate
  have hlt := length_of_getElem? ha
  rw [(placed_of_run h).acceptors] at hlt
  obtain ⟨hindex, hrule, -⟩ := hopens.each i _ (List.getElem?_eq_getElem hlt)
  exact ⟨_, List.getElem?_eq_getElem hlt, hindex, hrule⟩

/-- Every connection serves one of the rules. -/
theorem exists_rule_of_run {t : TaskId} {c : Connection} (h : (forRules rules limits).run ms = some s)
    (hc : s.connections[t]? = some c) : ∃ rule, s.rules[c.rule]? = some rule := by
  obtain ⟨a, ha⟩ := (placed_of_run h).exists_acceptor hc
  obtain ⟨l, -, -, hrule⟩ := exists_listener h ha
  rw [(recorded_of_run h).same]
  exact ⟨l.rule, hrule⟩

end Service

end SshTunnel

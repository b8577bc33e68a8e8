import SshTunnel.Proofs.Service.Noted

/-!
What is so from the moment on at which the supervisor has seen all acceptors end: nothing is open, nobody comes, and
whoever is still there is told when the rest is told to end.
-/

namespace SshTunnel.Service

variable {s s' s'' : Service} {m : Move} {ms more : List Move} {rules : List Rule} {limits : Limits} {i : Nat}
  {a : Acceptor} {t : TaskId} {c : Connection} {e : Roster.Entry}

/-! ### Nobody comes -/

/-- No connection can be registered. -/
theorem enrol_eq_none (h : ∀ a ∈ s.acceptors, a.isOpen = false) (i : Nat) : s.enrol i = none := by
  cases hs : s.enrol i with
  | none => rfl
  | some s' =>
    cases effect_of_enrol hs with
    | aside hm => cases hm
    | number i a c ha hst => exact closed_of_open ha (by simp [Acceptor.isOpen, hst]) h
    | enter i a c id ha hst => exact closed_of_open ha (by simp [Acceptor.isOpen, hst]) h
    | count i a c id ha hst => exact closed_of_open ha (by simp [Acceptor.isOpen, hst]) h
    | spawn i a c id ha hst => exact closed_of_open ha (by simp [Acceptor.isOpen, hst]) h
    | note i a id task ha hst => exact closed_of_open ha (by simp [Acceptor.isOpen, hst]) h

/-- Nobody has come since then, and nobody can. -/
structure Remains (s s' : Service) : Prop where
  closed : ∀ a ∈ s'.acceptors, a.isOpen = false
  enrol : ∀ i, s'.enrol i = none
  connections : s'.connections.length = s.connections.length
  nextId : s'.roster.nextId = s.roster.nextId
  entries : s'.roster.seats.Sublist s.roster.seats
  active : s'.roster.active ≤ s.roster.active

theorem remains_refl (h : ∀ a ∈ s.acceptors, a.isOpen = false) : Remains s s :=
  ⟨h, enrol_eq_none h, rfl, rfl, .refl _, Nat.le_refl _⟩

theorem Remains.trans (h : Remains s s') (h' : Remains s' s'') : Remains s s'' :=
  ⟨h'.closed, h'.enrol, h'.connections.trans h.connections, h'.nextId.trans h.nextId, h'.entries.trans h.entries,
    Nat.le_trans h'.active h.active⟩

theorem active_eq_length_seats (r : Roster) : r.active = r.seats.length := (List.length_map _).symm

theorem Lawful.remains_step (h : Lawful s) (hj : s.stage.isJoined = true) (hs : s.step m = some s') :
    Remains s s' := by
  have hbefore := h.closed_of_isJoined hj
  have hafter := (h.step hs).closed_of_isJoined (isJoined_of_step hs hj)
  have hall := seats_sublist_of_closed (p := fun _ => true) (effect_of_step hs)
    fun i a _ ha => hafter a (List.mem_of_getElem? ha)
  rw [List.filter_true, List.filter_true] at hall
  have hactive : s'.roster.active ≤ s.roster.active := by
    rw [active_eq_length_seats, active_eq_length_seats]
    exact hall.length_le
  -- the two moves that would number a client or make a task are those of an acceptor that is open
  have hcount : s'.connections.length = s.connections.length ∧ s'.roster.nextId = s.roster.nextId := by
    cases effect_of_step hs with
    | aside hm hsame => exact ⟨congrArg List.length hsame.connections, congrArg Roster.nextId hsame.roster⟩
    | abort lost hst => exact ⟨List.length_mapIdx, rfl⟩
    | number i a c ha hst => exact closed_of_open ha (by simp [Acceptor.isOpen, hst]) hbefore
    | spawn i a c id ha hst => exact closed_of_open ha (by simp [Acceptor.isOpen, hst]) hbefore
    | dial t c rule hc hrule hidle hlive => exact ⟨List.length_set .., rfl⟩
    | work t cm c c' rule hm hc hrule hagree hwork => exact ⟨List.length_set .., rfl⟩
    | remove t c hc hdone hheld hfirst => exact ⟨List.length_set .., rfl⟩
    | countOut t c hc hremoved => exact ⟨List.length_set .., rfl⟩
    | returnPermit t c a hc ha hdone hpermit hlast => exact ⟨List.length_set .., rfl⟩
    | _ => exact ⟨rfl, rfl⟩
  exact ⟨hafter, enrol_eq_none hafter, hcount.1, hcount.2, hall, hactive⟩

theorem Lawful.remains : ∀ {more : List Move} {s s' : Service}, Lawful s → s.stage.isJoined = true →
    s.run more = some s' → Remains s s'
  | [], s, s', h, hj, hr => by
    obtain rfl := Option.some.inj hr
    exact remains_refl (h.closed_of_isJoined hj)
  | m :: more, s, s', h, hj, hr => by
    obtain ⟨s₁, hs, hr⟩ := Option.bind_eq_some_iff.1 hr
    exact (h.remains_step hj hs).trans ((h.step hs).remains (isJoined_of_step hs hj) hr)

theorem isJoined_of_run : ∀ {ms : List Move} {s s' : Service}, s.stage.isJoined = true → s.run ms = some s' →
    s'.stage.isJoined = true
  | [], s, s', hj, hr => by
    obtain rfl := Option.some.inj hr
    exact hj
  | m :: ms, s, s', hj, hr => by
    obtain ⟨s₁, hs, hr⟩ := Option.bind_eq_some_iff.1 hr
    exact isJoined_of_run (isJoined_of_step hs hj) hr

theorem isJoined_of_mem (h : (forRules rules limits).run ms = some s) (hm : .stop .join ∈ ms) :
    s.stage.isJoined = true := by
  obtain ⟨before, after, rfl⟩ := List.append_of_mem hm
  rw [run_append] at h
  obtain ⟨s₁, -, h⟩ := Option.bind_eq_some_iff.1 h
  obtain ⟨s₂, h₂, h⟩ := Option.bind_eq_some_iff.1 h
  cases stops_of_stop h₂ with
  | join lost hst hclosed => exact isJoined_of_run rfl h

/-! ### Nobody is missed -/

/-- Registrations are those of the connections, once the acceptors have ended. -/
theorem seats_of_closed (h : ∀ a ∈ s.acceptors, a.isOpen = false) : s.seats = s.bookings.map Booking.seat := by
  have hnone : (s.acceptors.mapIdx Acceptor.seat?).filterMap id = [] := by
    refine List.filterMap_eq_nil_iff.2 fun o ho => ?_
    obtain ⟨j, hj, rfl⟩ := List.mem_mapIdx.1 ho
    have hclosed := h _ (List.getElem_mem hj)
    unfold Acceptor.seat?
    split
    · rename_i hst
      rw [Acceptor.isOpen, hst] at hclosed
      cases hclosed
    · rename_i hst
      rw [Acceptor.isOpen, hst] at hclosed
      cases hclosed
    · rename_i hst
      rw [Acceptor.isOpen, hst] at hclosed
      cases hclosed
    · rfl
  unfold seats
  rw [hnone, List.nil_append]

theorem registered_of_closed (h : ∀ a ∈ s.acceptors, a.isOpen = false) : s.registered = s.connections.length := by
  unfold registered
  rw [seats_of_closed h, List.length_map]
  exact List.length_map _

theorem Noted.exists_task (h : Noted s) (hclosed : ∀ a ∈ s.acceptors, a.isOpen = false)
    (he : e ∈ s.roster.entries) : ∃ t, e.task = some t ∧ s.HasId t e.id := by
  cases htask : e.task with
  | none =>
    obtain ⟨a, ha, hregs⟩ := h.unknown e he htask
    exact closed_of_open ha (Acceptor.registers_isOpen hregs) hclosed
  | some t => exact ⟨t, rfl, h.known e he t htask⟩

theorem mem_tasks {r : Roster} : t ∈ r.tasks ↔ ∃ e ∈ r.entries, e.task = some t := List.mem_filterMap

theorem Noted.length_tasks (h : Noted s) (hclosed : ∀ a ∈ s.acceptors, a.isOpen = false) :
    s.roster.tasks.length = s.roster.active := by
  refine List.filterMap_length_eq_length.2 fun e he => ?_
  obtain ⟨t, ht, -⟩ := h.exists_task hclosed he
  rw [ht]
  rfl

/-- A connection lets go of its entry only when its task is over. -/
theorem held_of_isLive (h : (forRules rules limits).run ms = some s) (hc : c ∈ s.connections) (hlive : c.isLive = true) :
    c.guard = .held := by
  have hleft : c.guard ≠ .held → c.done = true := by
    refine connections_of_run (P := fun c => c.guard ≠ .held → c.done = true) ?_ ?_ h c hc
    · exact fun client id rule hne => absurd rfl hne
    · intro d d' hd hchange hne
      cases hchange with
      | work target force cm _ hwork =>
        have hguard : d'.guard = d.guard := congrArg Booking.guard hwork.booking
        exact hwork.done (hd (hguard ▸ hne))
      | abort => exact hd hne
      | remove hdone hheld => exact hdone
      | countOut hremoved =>
        refine hd ?_
        rw [hremoved]
        exact nofun
      | returnPermit hdone hpermit hlast => exact hdone
  by_contra hne
  rw [Connection.isLive, hleft hne] at hlive
  cases hlive

theorem nodup_of_closed (h : (forRules rules limits).run ms = some s) (hclosed : ∀ a ∈ s.acceptors, a.isOpen = false)
    (hb : s.connections.length < 2 ^ 64) : s.registered < 2 ^ 64 ∧ (s.seats.map Seat.id).Nodup := by
  have hreg : s.registered < 2 ^ 64 := by
    rw [registered_of_closed hclosed]
    exact hb
  exact ⟨hreg, (numbered_of_run h).nodup hreg⟩

/-- With an id for each, the tasks on the roster are those of the connections that have not left it. -/
theorem mem_tasks_iff (h : (forRules rules limits).run ms = some s) (hclosed : ∀ a ∈ s.acceptors, a.isOpen = false)
    (hb : s.connections.length < 2 ^ 64) (hc : s.connections[t]? = some c) :
    t ∈ s.roster.tasks ↔ c.guard = .held := by
  have hseats := seats_of_closed hclosed
  obtain ⟨hreg, hnodup⟩ := nodup_of_closed h hclosed hb
  have hbook := getElem?_bookings_of hc
  have hseat : c.booking.seat ∈ s.seats := by
    rw [hseats]
    exact List.mem_map_of_mem (List.mem_of_getElem? hbook)
  have hlisted : c.booking.seat.listed = true ↔ c.guard = .held := decide_eq_true_iff
  have hnoted := noted_of_run h
  rw [mem_tasks, ← hlisted]
  constructor
  · rintro ⟨e, he, htask⟩
    obtain ⟨b, hb', hid⟩ := hnoted.known e he t htask
    rw [hbook] at hb'
    obtain rfl := Option.some.inj hb'
    -- an entry and a connection that share their id are one registration: ids do not come twice
    have hin := (seated_of_run h).subset e.seat (List.mem_map_of_mem he)
    rw [List.inj_on_of_nodup_map hnodup hseat hin hid]
    rfl
  · intro hheld
    obtain ⟨e, he, hsame⟩ := List.mem_map.1 (complete_of_run h hreg _ hseat hheld)
    obtain ⟨u, hu, b, hb', hid⟩ := hnoted.exists_task hclosed he
    refine ⟨e, he, ?_⟩
    rw [hu]
    have hids : (s.bookings.map Booking.id).Nodup := by
      rw [hseats, List.map_map] at hnodup
      exact hnodup
    have hat : ∀ {v : TaskId} {b : Booking}, s.bookings[v]? = some b → (s.bookings.map Booking.id)[v]? = some b.id := by
      intro v b hv
      rw [List.getElem?_map, hv]
      rfl
    have hcid : c.booking.id = b.id := (congrArg Seat.id hsame).symm.trans hid.symm
    have hlt := length_of_getElem? (hat hbook)
    have hut : t = u := (List.getElem?_inj hlt hids).1 ((hat hbook).trans (hcid ▸ (hat hb').symm))
    rw [hut]

theorem active_eq_countP (h : (forRules rules limits).run ms = some s) (hclosed : ∀ a ∈ s.acceptors, a.isOpen = false)
    (hb : s.connections.length < 2 ^ 64) : s.roster.active = s.connections.countP fun c => c.guard = .held := by
  have hseats := seats_of_closed hclosed
  obtain ⟨hreg, hnodup⟩ := nodup_of_closed h hclosed hb
  have hperm : s.roster.seats.Perm (s.seats.filter Seat.listed) := by
    refine (List.perm_ext_iff_of_nodup (List.Nodup.of_map _ (seated_of_run h).nodup)
      ((List.Nodup.of_map _ hnodup).filter _)).2 fun x => ?_
    rw [List.mem_filter]
    constructor
    · exact fun hx => ⟨(seated_of_run h).subset x hx, Roster.listed_of_mem_seats hx⟩
    · exact fun hx => complete_of_run h hreg x hx.1 hx.2
  rw [active_eq_length_seats, hperm.length_eq, ← List.countP_eq_length_filter, hseats, List.countP_map]
  unfold bookings
  rw [List.countP_map]
  rfl

/-- What is so once the supervisor has seen all acceptors end. -/
structure Gathered (s : Service) : Prop where
  /-- Nobody comes any more, whatever else happens. -/
  final : ∀ more s', s.run more = some s' → Remains s s'
  /-- The task of everybody on the roster is known, and is that of a connection. -/
  noted : ∀ e ∈ s.roster.entries, ∃ t c, e.task = some t ∧ s.connections[t]? = some c ∧ c.id = e.id
  /-- As many tasks would be told to end as there are entries. -/
  number : s.roster.tasks.length = s.roster.active
  told : ∀ s', s.step (.stop .abort) = some s' →
    ∀ t ∈ s.roster.tasks, ∃ c, s'.connections[t]? = some c ∧ c.aborted = true
  live : ∀ c ∈ s.connections, c.isLive = true → c.guard = .held
  /-- As long as ids do not begin anew, these are just the connections that have not left the roster. -/
  everyone : s.connections.length < 2 ^ 64 →
    (∀ t c, s.connections[t]? = some c → (t ∈ s.roster.tasks ↔ c.guard = .held)) ∧
      s.roster.tasks.length = s.connections.countP fun c => c.guard = .held

/-- **Draining misses nobody**, whatever the order of events. -/
theorem gathered (rules : List Rule) (limits : Limits) (ms : List Move) (s : Service)
    (h : (forRules rules limits).run ms = some s) (hjoin : .stop .join ∈ ms) : Gathered s := by
  have hj := isJoined_of_mem h hjoin
  have hlaw := lawful_of_run h
  have hclosed := hlaw.closed_of_isJoined hj
  have hnoted := noted_of_run h
  have htask : ∀ e ∈ s.roster.entries, ∃ t c, e.task = some t ∧ s.connections[t]? = some c ∧ c.id = e.id := by
    intro e he
    obtain ⟨t, ht, b, hb, hid⟩ := hnoted.exists_task hclosed he
    obtain ⟨c, hc, rfl⟩ := getElem?_bookings hb
    exact ⟨t, c, ht, hc, hid⟩
  refine ⟨fun more s' hr => hlaw.remains hj hr, htask, hnoted.length_tasks hclosed, ?_,
    fun c hc hlive => held_of_isLive h hc hlive, fun hb => ⟨?_, ?_⟩⟩
  · intro s' hs t ht
    obtain ⟨e, he, htask'⟩ := mem_tasks.1 ht
    obtain ⟨u, c, hu, hc, -⟩ := htask e he
    rw [htask'] at hu
    obtain rfl := Option.some.inj hu
    cases stops_of_stop hs with
    | abort lost hst =>
      refine ⟨{ c with aborted := true }, ?_, rfl⟩
      dsimp only [abortAll]
      rw [List.getElem?_mapIdx, hc, Option.map_some, if_pos ht]
  · exact fun t c hc => mem_tasks_iff h hclosed hb hc
  · rw [hnoted.length_tasks hclosed]
    exact active_eq_countP h hclosed hb

/-- A client whose channel is neither opened nor refused, until the supervisor is about to abort what is left. -/
def stuckClient : List Move :=
  [.start .authenticate, .start (.established (.ok ())), .start (.bind (Listener.onHost [])), .start .announce,
    .accept 0 .start, .accept 0 .takePermit, .outside (.connect 0 ⟨"127.0.0.1", 40000⟩), .accept 0 .accept, .enrol 0,
    .enrol 0, .enrol 0, .enrol 0, .enrol 0, .work 0 .dial, .outside .askStop, .stop (.drain false),
    .stop .stopAccepting, .accept 0 .takePermit, .accept 0 .quit, .stop .join, .stop .overdue, .stop .force,
    .stop .overdue]

theorem gathered_stuckClient :
    ∃ s, (forRules [⟨"127.0.0.1", 8080, "db", 5432⟩] {}).run stuckClient = some s ∧ s.roster.tasks = [0] ∧
      (s.step (.stop .abort)).isSome = true ∧ Gathered s := by
  have hend : ((forRules [⟨"127.0.0.1", 8080, "db", 5432⟩] {}).run stuckClient).map
      (fun s => (s.roster.tasks, (s.step (.stop .abort)).isSome)) = some ([0], true) := by
    decide +kernel
  obtain ⟨s, hs, hshown⟩ := Option.map_eq_some_iff.1 hend
  obtain ⟨htasks, habort⟩ := Prod.mk.inj hshown
  exact ⟨s, hs, htasks, habort, gathered _ _ _ s hs (by simp [stuckClient])⟩

end SshTunnel.Service

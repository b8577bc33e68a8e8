import SshTunnel.Proofs.Service.Apart
import SshTunnel.Proofs.Service.Finishing
import SshTunnel.Proofs.Service.Listing

/-!
What becomes of the clients of a rule, however many there are and whatever else goes on.  Each that is accepted is
registered with its own rule, gets at most one channel, to the target of that rule, relays what its own client and its
own channel send, and leaves all others alone.
-/

namespace SshTunnel.Service

variable {s s' : Service} {m : Move} {ms : List Move} {rules : List Rule} {limits : Limits} {i j : Nat}
  {a : Acceptor} {t : TaskId} {c : Connection} {e : Roster.Entry}

/-! ### Acceptance -/

/-- Who was accepted and registered after moves from `s₀`. -/
structure Admitted (rules : List Rule) (s₀ : Service) (ms : List Move) (s : Service) : Prop where
  /-- The acceptor of a rule has the listener of that rule. -/
  listener : ∀ (i : Nat) (a : Acceptor), s.acceptors[i]? = some a →
    ∃ l : Listener, s.listeners[i]? = some l ∧ l.index = i ∧ rules[i]? = some l.rule
  /-- It accepts those who connect there, in their order. -/
  accepted : ∀ i, clientsOf i (traced acceptance? s₀ ms) <+: clientsOf i (traced arrival? s₀ ms)
  /-- Nobody is accepted twice. -/
  once : ((traced acceptance? s₀ ms).map fun x => x.2.number).Nodup
  /-- They are registered with that rule, each once and in the same order; the last may be about to be. -/
  registered : ∀ i, clientsOf i (traced acceptance? s₀ ms) = clientsOf i (traced registration? s₀ ms) ∨
    ∃ (c : Client) (a : Acceptor),
      clientsOf i (traced acceptance? s₀ ms) = clientsOf i (traced registration? s₀ ms) ++ [c] ∧
        s.acceptors[i]? = some a ∧ (a.stage = .holding c ∨ ∃ id, a.stage = .numbered c id) ∧
        (s.step (.enrol i)).isSome = true
  /-- Every connection is that of a client that was registered with its rule, and nobody has two. -/
  served : ∀ (t : TaskId) (c : Connection), s.connections[t]? = some c →
    c.client ∈ clientsOf c.rule (traced registration? s₀ ms)
  servedOnce : (s.connections.map fun c : Connection => c.client.number).Nodup

theorem mem_registered (h : (forRules rules limits).run ms = some s) (hc : s.connections[t]? = some c) :
    c.client ∈ clientsOf c.rule (traced registration? (forRules rules limits) ms) := by
  rw [(inLine_of_run c.rule h).entered]
  refine List.mem_append_left _ (List.mem_filterMap.2 ⟨(c.rule, c.client), ?_, if_pos rfl⟩)
  exact List.mem_map.2 ⟨c.booking, List.mem_map_of_mem (List.mem_of_getElem? hc), rfl⟩

theorem admitted_of_run (h : (forRules rules limits).run ms = some s) : Admitted rules (forRules rules limits) ms s := by
  refine ⟨fun i a ha => exists_listener h ha, fun i => (inLine_of_run i h).accepted_isPrefix,
    acceptance_numbers_nodup h, fun i => ?_, fun t c hc => mem_registered h hc, client_numbers_nodup h⟩
  rcases (inLine_of_run i h).accepted_cases with hall | ⟨c, stage, waiting, hline, hlast, hstage⟩
  · exact Or.inl hall
  · obtain ⟨a, ha, hline⟩ := Option.map_eq_some_iff.1 hline
    have hst : a.stage = stage := (Prod.mk.inj hline).1
    subst hst
    have hbusy : a.isEnrolling = true := by
      unfold Acceptor.isEnrolling
      rcases hstage with hst | ⟨id, hst⟩
      · rw [hst]
      · rw [hst]
    exact Or.inr ⟨c, a, hlast, ha, hstage, Option.isSome_iff_exists.2 (exists_enrol ha hbusy)⟩

/-! ### Entries -/

/-- Whose the entries on the roster are. -/
structure Enlisted (s : Service) : Prop where
  /-- Every entry is that of a connection, or of a client that an acceptor is handing over, with its rule and peer. -/
  whose : ∀ e ∈ s.roster.entries,
    (∃ c ∈ s.connections, c.id = e.id ∧ c.rule = e.rule ∧ c.client.peer = e.peer ∧ c.guard = .held) ∨
      ∃ a c, s.acceptors[e.rule]? = some a ∧ c.peer = e.peer ∧
        (a.stage = .entered c e.id ∨ a.stage = .counted c e.id)
  once : (s.roster.entries.map Roster.Entry.id).Nodup
  /-- As long as ids do not begin anew, every connection that has not left has its entry, and its own id. -/
  listed : s.registered < 2 ^ 64 → ∀ c ∈ s.connections, c.guard = .held →
    ∃ e ∈ s.roster.entries, e.id = c.id ∧ e.rule = c.rule ∧ e.peer = c.client.peer
  ids : s.registered < 2 ^ 64 → (s.connections.map Connection.id).Nodup

theorem Seated.whose (h : Seated s) (he : e ∈ s.roster.entries) :
    (∃ c ∈ s.connections, c.id = e.id ∧ c.rule = e.rule ∧ c.client.peer = e.peer ∧ c.guard = .held) ∨
      ∃ a c, s.acceptors[e.rule]? = some a ∧ c.peer = e.peer ∧
        (a.stage = .entered c e.id ∨ a.stage = .counted c e.id) := by
  -- a registration is with an acceptor or with a connection, and what it says is what the entry says
  rcases List.mem_append.1 (h.subset e.seat (List.mem_map_of_mem he)) with hacc | hbook
  · obtain ⟨o, ho, heq⟩ := List.mem_filterMap.1 hacc
    obtain ⟨i, hi, rfl⟩ := List.mem_mapIdx.1 ho
    have hseat : s.acceptors[i].seat? i = some e.seat := heq
    have hrule : i = e.rule := (Acceptor.rule_of_seat? hseat).symm
    subst hrule
    refine Or.inr ⟨s.acceptors[e.rule], ?_⟩
    unfold Acceptor.seat? at hseat
    split at hseat
    · exact absurd (congrArg Seat.listed (Option.some.inj hseat)) Bool.false_ne_true
    · rename_i c id hst
      obtain ⟨hid, -, hpeer, -⟩ := Seat.mk.inj (Option.some.inj hseat)
      exact ⟨c, List.getElem?_eq_getElem hi, hpeer, Or.inl (hid ▸ hst)⟩
    · rename_i c id hst
      obtain ⟨hid, -, hpeer, -⟩ := Seat.mk.inj (Option.some.inj hseat)
      exact ⟨c, List.getElem?_eq_getElem hi, hpeer, Or.inr (hid ▸ hst)⟩
    · cases hseat
  · obtain ⟨b, hb, heq⟩ := List.mem_map.1 hbook
    obtain ⟨c, hc, rfl⟩ := List.mem_map.1 hb
    obtain ⟨hid, hrule, hpeer, hlisted⟩ := Seat.mk.inj heq
    exact Or.inl ⟨c, hc, hid, hrule, hpeer, of_decide_eq_true hlisted⟩

theorem enlisted_of_run (h : (forRules rules limits).run ms = some s) : Enlisted s := by
  have hseat : ∀ {c : Connection}, c ∈ s.connections → c.booking.seat ∈ s.seats := by
    intro c hc
    exact List.mem_append_right _ (List.mem_map_of_mem (List.mem_map_of_mem hc))
  refine ⟨fun e he => (seated_of_run h).whose he, ?_, ?_, ?_⟩
  · have hnodup := (seated_of_run h).nodup
    unfold Roster.seats at hnodup
    rw [List.map_map] at hnodup
    exact hnodup
  · intro hb c hc hheld
    obtain ⟨e, he, hsame⟩ := List.mem_map.1 (complete_of_run h hb _ (hseat hc) (decide_eq_true hheld))
    obtain ⟨hid, hrule, hpeer, -⟩ := Seat.mk.inj hsame
    exact ⟨e, he, hid, hrule, hpeer⟩
  · intro hb
    have hnodup := (numbered_of_run h).nodup hb
    unfold seats bookings at hnodup
    rw [List.map_append, List.map_map, List.map_map] at hnodup
    exact hnodup.of_append_right

/-! ### All together -/

/-- What a connection does to others. -/
structure Isolated (s : Service) : Prop where
  /-- Moves of a connection leave alone what is not its own; every other connection can do what it could. -/
  apart : ∀ (t : TaskId) (c : Connection) (more : List Move) (s' : Service), s.connections[t]? = some c →
    (∀ m ∈ more, m.task? = some t) → s.run more = some s' →
    Apart t c s s' ∧ ∀ u m, u ≠ t → m.task? = some u → (s.step m).isSome = true → (s'.step m).isSome = true
  /-- The bytes of a rule are counted for its connections, -/
  tallied : Tallied s
  /-- and the counters change with moves of their tasks only. -/
  counted : ∀ m s' j w, s.step m = some s' →
    (∀ t cm c, m = .work t cm → s.connections[t]? = some c → c.rule ≠ j) →
    (s'.roster.stats? j).map (fun st => st.moved w) = (s.roster.stats? j).map fun st => st.moved w

/-- What becomes of the clients of the rules. -/
structure Routed (rules : List Rule) (s₀ : Service) (ms : List Move) (s : Service) : Prop where
  same : s.rules = rules
  admitted : Admitted rules s₀ ms s
  enlisted : Enlisted s
  dialled : Dialled s
  /-- What a channel and a client are sent are beginnings of what the other has sent. -/
  delivered : ∀ (t : TaskId) (c : Connection), s.connections[t]? = some c →
    (c.flow .up).delivered <+: s.clientStreams[c.client.number]?.getD [] ∧
      (c.flow .down).delivered <+: s.channelStreams[t]?.getD []
  isolated : Isolated s

/-- **Routing and isolation**, for any number of clients of any rules and whatever the order of events. -/
theorem routed (rules : List Rule) (limits : Limits) (ms : List Move) (s : Service)
    (h : (forRules rules limits).run ms = some s) : Routed rules (forRules rules limits) ms s := by
  refine ⟨(recorded_of_run h).same, admitted_of_run h, enlisted_of_run h, dialled_of_run h, ?_, ?_, tallied_of_run h, ?_⟩
  · exact fun t c hc => ⟨(faithful_of_run h t c .up hc).within, (faithful_of_run h t c .down hc).within⟩
  · intro t c more s' hc hown hrun
    have hapart := apart_of_run hc hown hrun
    exact ⟨hapart, fun u m hu hm hable => hapart.able hu hm hable⟩
  · exact fun m s' j w hs hothers => moved_of_effect (effect_of_step hs) hothers w

/-- A client of each of two rules.  The later one gets the first task, and its channel is refused while the earlier
one relays two bytes. -/
def refusedBeside : List Move :=
  [.start .authenticate, .start (.established (.ok ())), .start (.bind (Listener.onHost [])), .start .announce,
    .accept 0 .start, .accept 1 .start, .accept 0 .takePermit, .accept 1 .takePermit,
    .outside (.connect 0 ⟨"127.0.0.1", 40000⟩), .outside (.connect 1 ⟨"127.0.0.1", 40001⟩), .accept 0 .accept,
    .enrol 0, .accept 1 .accept, .enrol 1, .enrol 1, .enrol 0, .enrol 0, .enrol 1, .enrol 1, .enrol 0, .enrol 0,
    .enrol 1, .work 1 .dial, .work 0 .dial, .outside (.clientSends 0 [104, 105]), .work 1 (.forward .opened),
    .work 1 (.forward (.relay (.flow .up (.read [104, 105])))),
    .work 0 (.forward (.refused (.channelRefused "refused"))), .work 1 (.forward (.relay (.flow .up (.accept 2)))),
    .work 0 .finish, .letGo 0 .remove]

theorem routed_refusedBeside :
    ∃ s, (forRules [⟨"127.0.0.1", 8080, "db", 5432⟩, ⟨"127.0.0.1", 8081, "web", 80⟩] {}).run refusedBeside = some s ∧
      s.dials = [⟨1, "db", 5432, ⟨"127.0.0.1", 40000⟩⟩, ⟨0, "web", 80, ⟨"127.0.0.1", 40001⟩⟩] ∧
      s.connections.map (fun c => (c.flow .up).delivered) = [[], [104, 105]] ∧
      s.roster.entries = [⟨1, 0, ⟨"127.0.0.1", 40000⟩, some 1⟩] ∧
      s.roster.stats = [⟨1, 1, 2, 0⟩, ⟨1, 1, 0, 0⟩] ∧
      Routed [⟨"127.0.0.1", 8080, "db", 5432⟩, ⟨"127.0.0.1", 8081, "web", 80⟩]
        (forRules [⟨"127.0.0.1", 8080, "db", 5432⟩, ⟨"127.0.0.1", 8081, "web", 80⟩] {}) refusedBeside s := by
  have hend : ((forRules [⟨"127.0.0.1", 8080, "db", 5432⟩, ⟨"127.0.0.1", 8081, "web", 80⟩] {}).run refusedBeside).map
      (fun s => (s.dials, s.connections.map (fun c => (c.flow .up).delivered), s.roster.entries, s.roster.stats)) =
      some ([⟨1, "db", 5432, ⟨"127.0.0.1", 40000⟩⟩, ⟨0, "web", 80, ⟨"127.0.0.1", 40001⟩⟩], [[], [104, 105]],
        [⟨1, 0, ⟨"127.0.0.1", 40000⟩, some 1⟩], [⟨1, 1, 2, 0⟩, ⟨1, 1, 0, 0⟩]) := by
    decide +kernel
  obtain ⟨s, hs, hshown⟩ := Option.map_eq_some_iff.1 hend
  obtain ⟨hdials, hrest⟩ := Prod.mk.inj hshown
  obtain ⟨hbytes, hrest⟩ := Prod.mk.inj hrest
  obtain ⟨hentries, hstats⟩ := Prod.mk.inj hrest
  exact ⟨s, hs, hdials, hbytes, hentries, hstats, routed _ _ _ s hs⟩

end SshTunnel.Service

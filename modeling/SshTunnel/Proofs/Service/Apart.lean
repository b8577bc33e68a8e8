import SshTunnel.Proofs.Service.Clients
import SshTunnel.Proofs.Service.Streams

/-!
What connections do to each other: nothing.  Whatever one does, however it fails, the session, the streams and the
other connections stay as they are, and these can go on as they could.
-/

namespace SshTunnel

theorem Roster.entry?_remove {id old : UInt64} (h : id ≠ old) (r : Roster) :
    Roster.entry? (r.remove old) id = r.entry? id := by
  unfold entry? remove
  rw [List.find?_filter]
  refine congrArg (fun p => r.entries.find? p) (funext fun e => ?_)
  by_cases he : e.id = id
  · simp [he, h]
  · simp [he]

namespace Service

variable {s s' s'' : Service} {m : Move} {more : List Move} {i j : Nat} {t u : TaskId} {c c' : Connection} {w : Way}

/-- What moves of a connection leave alone: all but the connections, the roster, free permits and requests for
channels, and of these whatever is not its own. -/
structure Apart (t : TaskId) (c : Connection) (s s' : Service) : Prop where
  rest : s' = { s with
    acceptors := s'.acceptors, connections := s'.connections, roster := s'.roster, dials := s'.dials }
  own : ∃ c', s'.connections[t]? = some c' ∧ c.Later c'
  connections : ∀ u, u ≠ t → s'.connections[u]? = s.connections[u]?
  lines : s'.acceptors.map Acceptor.line = s.acceptors.map Acceptor.line
  acceptors : ∀ i, i ≠ c.rule → s'.acceptors[i]? = s.acceptors[i]?
  entries : ∀ id, id ≠ c.id → s'.roster.entry? id = s.roster.entry? id
  nextId : s'.roster.nextId = s.roster.nextId
  stats : ∀ j, j ≠ c.rule → s'.roster.stats? j = s.roster.stats? j
  dials : ∃ own, s'.dials = s.dials ++ own ∧ ∀ d ∈ own, d.task = t

theorem apart_refl (hc : s.connections[t]? = some c) : Apart t c s s :=
  ⟨rfl, ⟨c, hc, Connection.later_refl c⟩, fun _ _ => rfl, rfl, fun _ _ => rfl, fun _ _ => rfl, rfl, fun _ _ => rfl,
    ⟨[], (List.append_nil _).symm, nofun⟩⟩

theorem Apart.trans (h : Apart t c s s') (hc' : s'.connections[t]? = some c') (h' : Apart t c' s' s'') :
    Apart t c s s'' := by
  obtain ⟨d, hd, hlater⟩ := h.own
  rw [hc'] at hd
  obtain rfl := Option.some.inj hd
  obtain ⟨c'', hc'', hlater'⟩ := h'.own
  obtain ⟨first, hfirst, htasks⟩ := h.dials
  obtain ⟨second, hsecond, htasks'⟩ := h'.dials
  refine ⟨?_, ⟨c'', hc'', hlater.trans hlater'⟩, ?_, h'.lines.trans h.lines, ?_, ?_, h'.nextId.trans h.nextId, ?_,
    ⟨first ++ second, ?_, ?_⟩⟩
  · rw [h'.rest, h.rest]
  · exact fun u hu => (h'.connections u hu).trans (h.connections u hu)
  · exact fun i hi => (h'.acceptors i (hlater.rule ▸ hi)).trans (h.acceptors i hi)
  · exact fun id hid => (h'.entries id (hlater.id ▸ hid)).trans (h.entries id hid)
  · exact fun j hj => (h'.stats j (hlater.rule ▸ hj)).trans (h.stats j hj)
  · rw [hsecond, hfirst, List.append_assoc]
  · intro d hd
    rcases List.mem_append.1 hd with hd | hd
    · exact htasks d hd
    · exact htasks' d hd

/-! ### What one move leaves alone -/

theorem stats?_countBytes_of_ne (c c' : Connection) (r : Roster) (h : j ≠ c'.rule) :
    (countBytes c c' r).stats? j = r.stats? j := by
  unfold countBytes
  rw [Roster.stats?_count, Roster.stats?_count, if_neg (Ne.symm h), if_neg (Ne.symm h)]

/-- What its task does. -/
theorem apart_of_works {target : Forwarder.Target} {force : Bool} {cm : Connection.Move}
    (hc : s.connections[t]? = some c) (hwork : c.Works target force cm c') (own : List Dial)
    (hown : ∀ d ∈ own, d.task = t) :
    Apart t c s { s.setConnection t c' with dials := s.dials ++ own, roster := countBytes c c' s.roster } := by
  have hrule : c'.rule = c.rule := congrArg Booking.rule hwork.booking
  refine ⟨rfl, ⟨c', getElem?_set_of_getElem? hc c', hwork.later⟩, ?_, rfl, fun _ _ => rfl, fun _ _ => rfl, rfl, ?_,
    ⟨own, rfl, hown⟩⟩
  · exact fun u hu => List.getElem?_set_ne hu.symm
  · exact fun j hj => stats?_countBytes_of_ne c c' s.roster (hrule ▸ hj)

theorem apart_of_effect (h : Effect s m s') (hm : m.task? = some t) (hc : s.connections[t]? = some c) :
    Apart t c s s' := by
  have hset : ∀ d' : Connection, ∀ u, u ≠ t → (s.setConnection t d').connections[u]? = s.connections[u]? :=
    fun d' u hu => List.getElem?_set_ne hu.symm
  have hown : ∀ {u : TaskId} {d : Connection}, some u = some t → s.connections[u]? = some d → u = t ∧ d = c := by
    intro u d hu hd
    obtain rfl := Option.some.inj hu
    exact ⟨rfl, Option.some.inj (hd.symm.trans hc)⟩
  -- a move of the task `t` itself: each kind writes the entry `t` and at most one line, counter or dial record
  cases h with
  | aside haside hsame =>
    cases m with
    | work | letGo => cases haside
    | _ => cases hm
  | dial u d rule hd hrule hnew hlive =>
    obtain ⟨rfl, rfl⟩ := hown hm hd
    have hdial : d.Works ⟨rule.remoteAddr, s.limits.dial⟩ s.isForced .dial { d with forwarder := some .dialing } :=
      .dial hnew hlive
    refine apart_of_works hc hdial [⟨u, rule.host, rule.port, d.client.peer⟩] fun x hx => ?_
    rw [List.mem_singleton.1 hx]
  | work u cm d d' rule hne hd hrule hagree hwork =>
    obtain ⟨rfl, rfl⟩ := hown hm hd
    have hnone := apart_of_works hc hwork [] nofun
    rw [List.append_nil] at hnone
    exact hnone
  | remove u d hd hdone hheld hfirst =>
    obtain ⟨rfl, rfl⟩ := hown hm hd
    exact ⟨rfl, ⟨_, getElem?_set_of_getElem? hc _, ⟨rfl, rfl, rfl, fun h => h⟩⟩, hset _, rfl, fun _ _ => rfl,
      fun id hid => Roster.entry?_remove hid _, rfl, fun _ _ => rfl, ⟨[], (List.append_nil _).symm, nofun⟩⟩
  | countOut u d hd hremoved =>
    obtain ⟨rfl, rfl⟩ := hown hm hd
    -- only the counter of the rule of `t` goes down, so a rule `j` other than it reads as before
    refine ⟨rfl, ⟨_, getElem?_set_of_getElem? hc _, ⟨rfl, rfl, rfl, fun h => h⟩⟩, hset _, rfl, fun _ _ => rfl,
      fun _ _ => rfl, rfl, fun j hj => ?_, ⟨[], (List.append_nil _).symm, nofun⟩⟩
    dsimp only
    rw [Roster.stats?_count, if_neg hj.symm]
  | returnPermit u d a hd ha hdone hpermit hlast =>
    obtain ⟨rfl, rfl⟩ := hown hm hd
    exact ⟨rfl, ⟨_, getElem?_set_of_getElem? hc _, ⟨rfl, rfl, rfl, fun h => h⟩⟩, hset _, map_set_of_eq ha rfl,
      fun i hi => List.getElem?_set_ne hi.symm, fun _ _ => rfl, rfl, fun _ _ => rfl,
      ⟨[], (List.append_nil _).symm, nofun⟩⟩
  | _ => cases hm

/-- However many moves a connection makes. -/
theorem apart_of_run : ∀ {more : List Move} {s : Service} {c : Connection}, s.connections[t]? = some c →
    (∀ m ∈ more, m.task? = some t) → s.run more = some s' → Apart t c s s'
  | [], s, c, hc, _, h => by
    obtain rfl := Option.some.inj h
    exact apart_refl hc
  | m :: more, s, c, hc, hown, h => by
    obtain ⟨s₁, hs, h⟩ := Option.bind_eq_some_iff.1 h
    have hfirst := apart_of_effect (effect_of_step hs) (hown m (List.mem_cons_self ..)) hc
    obtain ⟨c₁, hc₁, -⟩ := hfirst.own
    exact hfirst.trans hc₁ (apart_of_run hc₁ (fun m hm => hown m (List.mem_cons_of_mem _ hm)) h)

/-! ### What others can do -/

theorem Apart.isForced (h : Apart t c s s') : s'.isForced = s.isForced := by
  have hforcing : s'.forcing = s.forcing := (congrArg Service.forcing h.rest :)
  have hstage : s'.stage = s.stage := (congrArg Service.stage h.rest :)
  unfold Service.isForced
  rw [hforcing, hstage]

theorem Apart.source (h : Apart t c s s') (u : TaskId) (d : Connection) : s'.source u d = s.source u d := by
  have hclients : s'.clientStreams = s.clientStreams := (congrArg Service.clientStreams h.rest :)
  have hchannels : s'.channelStreams = s.channelStreams := (congrArg Service.channelStreams h.rest :)
  funext w
  cases w
  · exact congrArg (fun l => l[d.client.number]?.getD []) hclients
  · exact congrArg (fun l => l[u]?.getD []) hchannels

theorem isSome_bind {α β : Type} {o : Option α} {f : α → Option β} {x : α} (ho : o = some x)
    (hf : (f x).isSome = true) : (o.bind f).isSome = true := by
  rw [ho]
  exact hf

theorem Apart.work (h : Apart t c s s') (hu : u ≠ t) {cm : Connection.Move} (hs : (s.work u cm).isSome = true) :
    (s'.work u cm).isSome = true := by
  have hrules : s'.rules = s.rules := (congrArg Service.rules h.rest :)
  have hlimits : s'.limits = s.limits := (congrArg Service.limits h.rest :)
  obtain ⟨s₁, hs⟩ := Option.isSome_iff_exists.1 hs
  obtain ⟨d, hd, hs⟩ := Option.bind_eq_some_iff.1 hs
  obtain ⟨_, hagree, hs⟩ := Option.bind_eq_some_iff.1 hs
  obtain ⟨rule, hrule, hs⟩ := Option.bind_eq_some_iff.1 hs
  obtain ⟨d', hwork, -⟩ := Option.bind_eq_some_iff.1 hs
  -- everything a task reads is its own entry, its streams, the rules, the limits and the flag, and all are as before
  rw [← h.connections u hu] at hd
  rw [← h.source] at hagree
  rw [← hrules] at hrule
  rw [← hlimits, ← h.isForced] at hwork
  exact isSome_bind hd (isSome_bind hagree (isSome_bind hrule (isSome_bind hwork rfl)))

theorem Apart.letGo (h : Apart t c s s') (hu : u ≠ t) {cm : Connection.Move} (hs : (s.letGo u cm).isSome = true) :
    (s'.letGo u cm).isSome = true := by
  obtain ⟨s₁, hs⟩ := Option.isSome_iff_exists.1 hs
  obtain ⟨d, hd, hs⟩ := Option.bind_eq_some_iff.1 hs
  obtain ⟨d', hgo, hs⟩ := Option.bind_eq_some_iff.1 hs
  rw [← h.connections u hu] at hd
  cases cm with
  | remove | countOut => simp [Service.letGo, hd, hgo]
  | returnPermit =>
    obtain ⟨a, ha, -⟩ := Option.bind_eq_some_iff.1 hs
    -- the permit goes back to an acceptor: it need not be as before, only there
    have hline := congrArg (fun l : List (Acceptor.Stage × List Client) => l[d.rule]?) h.lines
    rw [List.getElem?_map, List.getElem?_map, ha] at hline
    obtain ⟨a', ha', -⟩ := Option.map_eq_some_iff.1 hline
    simp [Service.letGo, hd, hgo, ha']
  | _ => cases hs

/-- Every other connection can do what it could. -/
theorem Apart.able (h : Apart t c s s') (hu : u ≠ t) (hm : m.task? = some u) (hs : (s.step m).isSome = true) :
    (s'.step m).isSome = true := by
  cases m with
  | work v cm =>
    obtain rfl := Option.some.inj hm
    exact h.work hu hs
  | letGo v cm =>
    obtain rfl := Option.some.inj hm
    exact h.letGo hu hs
  | _ => cases hm

/-! ### Whose bytes are counted -/

/-- The counters of bytes of a rule change when a task of one of its connections moves, and at no other time. -/
theorem moved_of_effect (h : Effect s m s')
    (hothers : ∀ t cm c, m = .work t cm → s.connections[t]? = some c → c.rule ≠ j) (w : Way) :
    (s'.roster.stats? j).map (fun st => st.moved w) = (s.roster.stats? j).map fun st => st.moved w := by
  have hcount : ∀ (rule : Nat) (f : Stats → Stats), (∀ st, (f st).moved w = st.moved w) →
      ((s.roster.count rule f).stats? j).map (fun st => st.moved w) =
        (s.roster.stats? j).map fun st => st.moved w := by
    intro rule f hf
    rw [Roster.stats?_count]
    split
    · rw [Option.map_map]
      exact congrArg (fun g => Option.map g (s.roster.stats? j)) (funext hf)
    · rfl
  -- the counters of connections move elsewhere as well, so only those of bytes are followed
  cases h with
  | aside hm hsame => rw [hsame.roster]
  | count i a cl id ha hst => exact hcount i Stats.connected fun st => by cases w <;> rfl
  | countOut u d hd hremoved => exact hcount d.rule Stats.disconnected fun st => by cases w <;> rfl
  | dial u d rule hd hrule hnew hlive =>
    have hsame := stats?_countBytes_of_ne d { d with forwarder := some .dialing } s.roster
      (hothers u _ d rfl hd).symm
    exact congrArg (Option.map fun st => st.moved w) hsame
  | work u cm d d' rule hne hd hrule hagree hwork =>
    have hrule' : d'.rule = d.rule := congrArg Booking.rule hwork.booking
    have hsame := stats?_countBytes_of_ne d d' s.roster (hrule' ▸ (hothers u _ d rfl hd).symm)
    exact congrArg (Option.map fun st => st.moved w) hsame
  | _ => rfl

end Service

end SshTunnel

import Mathlib.Data.List.Perm.Basic
import SshTunnel.Proofs.Service.LifeCycle

/-!
What a move does to the parts of a service: its acceptors, its connections, the roster, and the streams.  Most
moves of starting and stopping leave them alone; any other changes one acceptor or one connection.
-/

namespace SshTunnel

/-! ### One of many -/

section Replacing

variable {α β : Type} {l : List α} {i j : Nat} {a b : α}

/-- Replacing one of many comes to removing it from the heap and putting the new one there. -/
theorem exists_perm_set (h : l[i]? = some a) (b : α) : ∃ rest, l.Perm (a :: rest) ∧ (l.set i b).Perm (b :: rest) := by
  obtain ⟨hi, rfl⟩ := List.getElem?_eq_some_iff.1 h
  exact ⟨l.eraseIdx i, (List.getElem_cons_eraseIdx_perm hi).symm, List.set_perm_cons_eraseIdx hi b⟩

theorem map_set_of_eq {f : α → β} (h : l[i]? = some a) (hf : f b = f a) : (l.set i b).map f = l.map f := by
  obtain ⟨hi, rfl⟩ := List.getElem?_eq_some_iff.1 h
  rw [List.map_set, hf]
  have hi' : i < (l.map f).length := by simpa using hi
  have hsame : (l.map f)[i] = f l[i] := List.getElem_map f
  rw [← hsame, List.set_getElem_self]

theorem getElem?_set_eq_some (h : (l.set i a)[j]? = some b) : i = j ∧ b = a ∨ i ≠ j ∧ l[j]? = some b := by
  by_cases hij : i = j
  · subst hij
    have hi : i < l.length := by
      have hlt := (List.getElem?_eq_some_iff.1 h).1
      simpa using hlt
    rw [List.getElem?_set_self hi] at h
    exact Or.inl ⟨rfl, (Option.some.inj h).symm⟩
  · rw [List.getElem?_set_ne hij] at h
    exact Or.inr ⟨hij, h⟩

theorem getElem?_set_of_getElem? (h : l[i]? = some a) (b : α) : (l.set i b)[i]? = some b :=
  List.getElem?_set_self (List.getElem?_eq_some_iff.1 h).1

theorem length_of_getElem? (h : l[i]? = some a) : i < l.length := (List.getElem?_eq_some_iff.1 h).1

end Replacing

/-! ### Acceptors -/

namespace Acceptor

/-- The moves of an acceptor, and what they come to. -/
inductive Steps (stopping : Bool) (a : Acceptor) : Move → Acceptor → Prop
  | start (h : a.stage = .starting) : Steps stopping a .start a.start
  | pass (h : a.stage = .ready) (hcap : a.cap = none) : Steps stopping a .takePermit { a with stage := .listening }
  | take (n k : Nat) (h : a.stage = .ready) (hcap : a.cap = some n) (hfree : a.free = k + 1) :
      Steps stopping a .takePermit { a with stage := .listening, free := k, permit := true }
  | accept (c : Client) (cs : List Client) (h : a.stage = .listening) (hwait : a.backlog = c :: cs) :
      Steps stopping a .accept { a with stage := .holding c, backlog := cs }
  | fail (h : a.stage = .listening) : Steps stopping a .acceptFails { a with stage := .resting }
  | resume (h : a.stage = .resting) : Steps stopping a .resume { a.putBack with stage := .ready }
  | quit (h : a.stage = .ready ∨ a.stage = .listening ∨ a.stage = .resting) (hstop : stopping = true) :
      Steps stopping a .quit a.stop

theorem steps_of_step {stopping : Bool} {a a' : Acceptor} {m : Move} (h : a.step stopping m = some a') :
    Steps stopping a m a' := by
  -- the cases of the function in their order: each is one of the moves above, or none
  unfold step at h
  split at h
  · rename_i hs
    obtain rfl := Option.some.inj h
    exact .start hs
  · rename_i hs
    unfold takePermit at h
    split at h
    · rename_i hcap
      obtain rfl := Option.some.inj h
      exact .pass hs hcap
    · cases h
    · rename_i n k hcap hfree
      obtain rfl := Option.some.inj h
      exact .take n k hs hcap hfree
  · rename_i hs
    split at h
    · rename_i hstop
      obtain rfl := Option.some.inj h
      exact .quit (Or.inl hs) hstop.1
    · cases h
  · rename_i hs
    split at h
    · cases h
    · rename_i c cs hwait
      obtain rfl := Option.some.inj h
      exact .accept c cs hs hwait
  · rename_i hs
    obtain rfl := Option.some.inj h
    exact .fail hs
  · rename_i hs
    split at h
    · rename_i hstop
      obtain rfl := Option.some.inj h
      exact .quit (Or.inr (Or.inl hs)) hstop
    · cases h
  · rename_i hs
    obtain rfl := Option.some.inj h
    exact .resume hs
  · rename_i hs
    split at h
    · rename_i hstop
      obtain rfl := Option.some.inj h
      exact .quit (Or.inr (Or.inr hs)) hstop
    · cases h
  · cases h

/-- An acceptor moves by itself only between two clients. -/
theorem Steps.stage {stopping : Bool} {a a' : Acceptor} {m : Move} (h : a.Steps stopping m a') :
    a.stage = .starting ∨ a.stage = .ready ∨ a.stage = .listening ∨ a.stage = .resting := by
  cases h with
  | start hs => exact Or.inl hs
  | pass hs => exact Or.inr (Or.inl hs)
  | take n k hs => exact Or.inr (Or.inl hs)
  | accept c cs hs => exact Or.inr (Or.inr (Or.inl hs))
  | fail hs => exact Or.inr (Or.inr (Or.inl hs))
  | resume hs => exact Or.inr (Or.inr (Or.inr hs))
  | quit hs => exact Or.inr hs

/-- No move of an acceptor changes its cap. -/
theorem Steps.cap {stopping : Bool} {a a' : Acceptor} {m : Move} (h : a.Steps stopping m a') : a'.cap = a.cap := by
  cases h with
  | start hs =>
    unfold Acceptor.start
    split
    · rfl
    · split
      · rfl
      · rfl
  | _ => rfl

end Acceptor

/-! ### Connections -/

/-- What a connection is to the roster and to its acceptor. -/
structure Booking where
  client : Client
  id : UInt64
  rule : Nat
  guard : Guard
  permit : Bool

namespace Connection

variable {c c' : Connection} {m : Move} {t : Forwarder.Target} {force : Bool}

def booking (c : Connection) : Booking := ⟨c.client, c.id, c.rule, c.guard, c.permit⟩

/-- The moves of the task of a connection, and what they come to. -/
inductive Works (t : Forwarder.Target) (force : Bool) (c : Connection) : Move → Connection → Prop
  | dial (hnew : c.forwarder = none) (hlive : c.done = false) :
      Works t force c .dial { c with forwarder := some .dialing }
  | skip (hnew : c.forwarder = none) (hlive : c.done = false) (hforce : force = true) :
      Works t force c .skip { c with forwarder := some (.ended none (.ok ())) }
  | forward (fm : Forwarder.Move) (f f' : Forwarder) (hf : c.forwarder = some f) (hmay : c.mayForward fm = true)
      (h : f.step t force fm = some f') : Works t force c (.forward fm) { c with forwarder := some f' }
  | finish (b : Option Bridge) (r : Except Failure Unit) (hf : c.forwarder = some (.ended b r))
      (hlive : c.done = false) : Works t force c .finish { c with done := true }
  | cancel (habort : c.aborted = true) (hlive : c.done = false) : Works t force c .cancel { c with done := true }
  | halt (hover : c.done = true) : Works t force c .halt { c with halted := true }

theorem works_of_work (h : c.work t force m = some c') : Works t force c m c' := by
  -- again case by case; what is asked of a connection first is what the constructor carries
  unfold work at h
  split at h
  · rename_i hf
    split at h
    · cases h
    · rename_i hlive
      obtain rfl := Option.some.inj h
      exact .dial hf (by simpa using hlive)
  · rename_i hf
    split at h
    · cases h
    · rename_i hcond
      obtain rfl := Option.some.inj h
      obtain ⟨hlive, hforce⟩ := not_or.1 hcond
      exact .skip hf (by simpa using hlive) (by simpa using hforce)
  · rename_i fm f hf
    split at h
    · rename_i hmay
      obtain ⟨f', hstep, rfl⟩ := Option.map_eq_some_iff.1 h
      exact .forward fm f f' hf hmay hstep
    · cases h
  · rename_i b r hf
    split at h
    · cases h
    · rename_i hlive
      obtain rfl := Option.some.inj h
      exact .finish b r hf (by simpa using hlive)
  · split at h
    · rename_i hcond
      obtain rfl := Option.some.inj h
      exact .cancel hcond.1 (by simpa using hcond.2)
    · cases h
  · split at h
    · rename_i hover
      obtain rfl := Option.some.inj h
      exact .halt hover
    · cases h
  · cases h

/-- What its task does leaves a connection where it is booked. -/
theorem Works.booking (h : c.Works t force m c') : c'.booking = c.booking := by
  cases h with
  | _ => rfl

/-- It is the same connection, with a forwarder if there was one. -/
structure Later (c c' : Connection) : Prop where
  client : c'.client = c.client
  id : c'.id = c.id
  rule : c'.rule = c.rule
  forwarder : c.forwarder.isSome = true → c'.forwarder.isSome = true

theorem later_refl (c : Connection) : Later c c := ⟨rfl, rfl, rfl, fun h => h⟩

theorem Later.trans {c'' : Connection} (h : Later c c') (h' : Later c' c'') : Later c c'' :=
  ⟨h'.client.trans h.client, h'.id.trans h.id, h'.rule.trans h.rule, fun hf => h'.forwarder (h.forwarder hf)⟩

theorem Works.later (h : c.Works t force m c') : c.Later c' := by
  refine ⟨congrArg Booking.client h.booking, congrArg Booking.id h.booking, congrArg Booking.rule h.booking, ?_⟩
  cases h with
  | dial => exact fun _ => rfl
  | skip => exact fun _ => rfl
  | forward => exact fun _ => rfl
  | _ => exact fun h => h

end Connection

/-! ### Services -/

namespace Service

variable {s s' : Service} {m : Move}

def bookings (s : Service) : List Booking := s.connections.map Connection.booking

theorem getElem?_bookings {t : TaskId} {b : Booking} (h : s.bookings[t]? = some b) :
    ∃ c, s.connections[t]? = some c ∧ c.booking = b := by
  unfold bookings at h
  rw [List.getElem?_map] at h
  exact Option.map_eq_some_iff.1 h

theorem getElem?_bookings_of {t : TaskId} {c : Connection} (h : s.connections[t]? = some c) :
    s.bookings[t]? = some c.booking := by
  unfold bookings
  rw [List.getElem?_map, h]
  rfl

theorem bookings_abortAll (s : Service) : s.abortAll.bookings = s.bookings := by
  unfold bookings abortAll
  refine List.ext_getElem? fun t => ?_
  rw [List.getElem?_map, List.getElem?_map, List.getElem?_mapIdx, Option.map_map]
  refine congrArg (fun f => Option.map f s.connections[t]?) (funext fun c => ?_)
  dsimp only [Function.comp]
  split
  · rfl
  · rfl

/-- The parts that work side by side are as they were. -/
structure SameParts (s s' : Service) : Prop where
  rules : s'.rules = s.rules
  limits : s'.limits = s.limits
  listeners : s'.listeners = s.listeners
  acceptors : s'.acceptors = s.acceptors
  connections : s'.connections = s.connections
  roster : s'.roster = s.roster
  clientStreams : s'.clientStreams = s.clientStreams
  channelStreams : s'.channelStreams = s.channelStreams
  dials : s'.dials = s.dials

/-- The moves that are not made by a client, an acceptor or a connection. -/
def Move.isAside : Move → Bool
  | .start _ | .stop _ | .outside .askStop | .outside .dropHandle | .outside .loseSession => true
  | _ => false

/-- The connection that makes a move. -/
def Move.task? : Move → Option TaskId
  | .work t _ | .letGo t _ => some t
  | _ => none

/-- The rule that a move serves. -/
def ruleOf? (s : Service) : Move → Option Nat
  | .outside (.connect i _) | .accept i _ | .enrol i => some i
  | .work t _ | .letGo t _ => s.connections[t]?.map Connection.rule
  | _ => none

/-- What a move does to the parts. -/
inductive Effect (s : Service) : Move → Service → Prop
  | aside {m : Move} {s' : Service} (hm : m.isAside = true) (h : SameParts s s') : Effect s m s'
  | bound (system : Listener.System) (ls : List Listener) (h : s.stage = .binding)
      (hls : (Listener.bindAll system ⟨s.rules⟩).result = .ok ls) :
      Effect s (.start (.bind system)) { s with stage := .launching, listeners := ls,
                                                acceptors := ls.map fun _ => { cap := s.limits.maxConnections } }
  | abort (lost : Bool) (h : s.stage = .draining lost .stuck) :
      Effect s (.stop .abort) { s.abortAll with stage := .draining lost .aborted }
  | connect (i : Nat) (a : Acceptor) (peer : Endpoint) (ha : s.acceptors[i]? = some a) (hopen : a.isOpen = true) :
      Effect s (.outside (.connect i peer))
        { s.setAcceptor i { a with backlog := a.backlog ++ [⟨s.clientStreams.length, peer⟩] } with
          clientStreams := s.clientStreams ++ [[]] }
  | clientSends (n : Nat) (b : Bytes) :
      Effect s (.outside (.clientSends n b)) { s with clientStreams := s.clientStreams.modify n (· ++ b) }
  | channelSends (t : TaskId) (b : Bytes) :
      Effect s (.outside (.channelSends t b)) { s with channelStreams := s.channelStreams.modify t (· ++ b) }
  | accept (i : Nat) (a a' : Acceptor) (am : Acceptor.Move) (ha : s.acceptors[i]? = some a)
      (h : a.Steps s.isStopping am a') : Effect s (.accept i am) (s.setAcceptor i a')
  | number (i : Nat) (a : Acceptor) (c : Client) (ha : s.acceptors[i]? = some a) (h : a.stage = .holding c) :
      Effect s (.enrol i)
        { s.setAcceptor i { a with stage := .numbered c s.roster.nextId } with roster := s.roster.takeId.2 }
  | enter (i : Nat) (a : Acceptor) (c : Client) (id : UInt64) (ha : s.acceptors[i]? = some a)
      (h : a.stage = .numbered c id) :
      Effect s (.enrol i)
        { s.setAcceptor i { a with stage := .entered c id } with
          roster := s.roster.insert ⟨id, i, c.peer, none⟩ }
  | count (i : Nat) (a : Acceptor) (c : Client) (id : UInt64) (ha : s.acceptors[i]? = some a)
      (h : a.stage = .entered c id) :
      Effect s (.enrol i)
        { s.setAcceptor i { a with stage := .counted c id } with roster := s.roster.count i Stats.connected }
  | spawn (i : Nat) (a : Acceptor) (c : Client) (id : UInt64) (ha : s.acceptors[i]? = some a)
      (h : a.stage = .counted c id) :
      Effect s (.enrol i)
        { s.setAcceptor i { a with stage := .spawned id s.connections.length, permit := false } with
          connections := s.connections ++ [{ client := c, id, rule := i, permit := a.permit }],
          channelStreams := s.channelStreams ++ [[]] }
  | note (i : Nat) (a : Acceptor) (id : UInt64) (task : TaskId) (ha : s.acceptors[i]? = some a)
      (h : a.stage = .spawned id task) :
      Effect s (.enrol i) { s.setAcceptor i { a with stage := .ready } with roster := s.roster.attach id task }
  | dial (t : TaskId) (c : Connection) (rule : Rule) (hc : s.connections[t]? = some c)
      (hrule : s.rules[c.rule]? = some rule) (hnew : c.forwarder = none) (hlive : c.done = false) :
      Effect s (.work t .dial)
        { s.setConnection t { c with forwarder := some .dialing } with
          dials := s.dials ++ [⟨t, rule.host, rule.port, c.client.peer⟩],
          roster := countBytes c { c with forwarder := some .dialing } s.roster }
  | work (t : TaskId) (cm : Connection.Move) (c c' : Connection) (rule : Rule) (hm : cm ≠ .dial)
      (hc : s.connections[t]? = some c) (hrule : s.rules[c.rule]? = some rule)
      (hagree : c.agrees (s.source t c) cm = true)
      (h : c.Works ⟨rule.remoteAddr, s.limits.dial⟩ s.isForced cm c') :
      Effect s (.work t cm) { s.setConnection t c' with roster := countBytes c c' s.roster }
  | remove (t : TaskId) (c : Connection) (hc : s.connections[t]? = some c) (hdone : c.done = true)
      (hheld : c.guard = .held) (hfirst : c.forwarder.isSome = true ∨ c.permit = false) :
      Effect s (.letGo t .remove)
        { s.setConnection t { c with guard := .removed } with roster := s.roster.remove c.id }
  | countOut (t : TaskId) (c : Connection) (hc : s.connections[t]? = some c) (hremoved : c.guard = .removed) :
      Effect s (.letGo t .countOut)
        { s.setConnection t { c with guard := .released } with
          roster := s.roster.count c.rule Stats.disconnected }
  | returnPermit (t : TaskId) (c : Connection) (a : Acceptor) (hc : s.connections[t]? = some c)
      (ha : s.acceptors[c.rule]? = some a) (hdone : c.done = true) (hpermit : c.permit = true)
      (hlast : c.forwarder = none ∨ c.guard = .released) :
      Effect s (.letGo t .returnPermit)
        ((s.setConnection t { c with permit := false }).setAcceptor c.rule { a with free := a.free + 1 })

theorem effect_of_starts {x : StartMove} (h : Starts s x s') : Effect s (.start x) s' := by
  cases h with
  | bound system ls hs hls => exact .bound system ls hs hls
  | _ => exact .aside rfl ⟨rfl, rfl, rfl, rfl, rfl, rfl, rfl, rfl, rfl⟩

theorem effect_of_stops {x : StopMove} (h : Stops s x s') : Effect s (.stop x) s' := by
  cases h with
  | abort lost hs => exact .abort lost hs
  | _ => exact .aside rfl ⟨rfl, rfl, rfl, rfl, rfl, rfl, rfl, rfl, rfl⟩

theorem effect_of_outside {x : OutsideMove} (h : s.outside x = some s') : Effect s (.outside x) s' := by
  cases x with
  | askStop =>
    simp only [outside] at h
    split at h
    · obtain rfl := Option.some.inj h
      exact .aside rfl ⟨rfl, rfl, rfl, rfl, rfl, rfl, rfl, rfl, rfl⟩
    · cases h
  | dropHandle =>
    simp only [outside] at h
    split at h
    · obtain rfl := Option.some.inj h
      exact .aside rfl ⟨rfl, rfl, rfl, rfl, rfl, rfl, rfl, rfl, rfl⟩
    · cases h
  | loseSession =>
    simp only [outside] at h
    split at h
    · obtain rfl := Option.some.inj h
      exact .aside rfl ⟨rfl, rfl, rfl, rfl, rfl, rfl, rfl, rfl, rfl⟩
    · cases h
  | connect i peer =>
    obtain ⟨a, ha, h⟩ := Option.bind_eq_some_iff.1 h
    split at h
    · rename_i hopen
      obtain rfl := Option.some.inj h
      exact .connect i a peer ha hopen
    · cases h
  | clientSends n b =>
    obtain rfl := Option.some.inj h
    exact .clientSends n b
  | channelSends t b =>
    obtain rfl := Option.some.inj h
    exact .channelSends t b

theorem effect_of_accept {i : Nat} {am : Acceptor.Move} (h : s.accept i am = some s') :
    Effect s (.accept i am) s' := by
  obtain ⟨a, ha, h⟩ := Option.bind_eq_some_iff.1 h
  obtain ⟨a', hstep, h⟩ := Option.bind_eq_some_iff.1 h
  obtain rfl := Option.some.inj h
  exact .accept i a a' am ha (Acceptor.steps_of_step hstep)

theorem effect_of_enrol {i : Nat} (h : s.enrol i = some s') : Effect s (.enrol i) s' := by
  obtain ⟨a, ha, h⟩ := Option.bind_eq_some_iff.1 h
  split at h
  · rename_i c hs
    obtain rfl := Option.some.inj h
    exact .number i a c ha hs
  · rename_i c id hs
    obtain rfl := Option.some.inj h
    exact .enter i a c id ha hs
  · rename_i c id hs
    obtain rfl := Option.some.inj h
    exact .count i a c id ha hs
  · rename_i c id hs
    obtain rfl := Option.some.inj h
    exact .spawn i a c id ha hs
  · rename_i id task hs
    obtain rfl := Option.some.inj h
    exact .note i a id task ha hs
  · cases h

theorem effect_of_work {t : TaskId} {cm : Connection.Move} (h : s.work t cm = some s') :
    Effect s (.work t cm) s' := by
  obtain ⟨c, hc, h⟩ := Option.bind_eq_some_iff.1 h
  obtain ⟨u, hguard, h⟩ := Option.bind_eq_some_iff.1 h
  obtain ⟨rule, hrule, h⟩ := Option.bind_eq_some_iff.1 h
  obtain ⟨c', hwork, h⟩ := Option.bind_eq_some_iff.1 h
  obtain rfl := Option.some.inj h
  have hagree : c.agrees (s.source t c) cm = true := by
    by_contra hnot
    rw [guard, if_neg hnot] at hguard
    cases hguard
  have hworks := Connection.works_of_work hwork
  -- the dial has an effect of its own, since it also leaves a request behind
  cases cm with
  | dial =>
    cases hworks with
    | dial hnew hlive => exact .dial t c rule hc hrule hnew hlive
  | _ => exact .work t _ c c' rule (by simp) hc hrule hagree hworks

theorem effect_of_letGo {t : TaskId} {cm : Connection.Move} (h : s.letGo t cm = some s') :
    Effect s (.letGo t cm) s' := by
  obtain ⟨c, hc, h⟩ := Option.bind_eq_some_iff.1 h
  obtain ⟨c', hgo, h⟩ := Option.bind_eq_some_iff.1 h
  cases cm with
  | remove =>
    simp only [Connection.letGo] at hgo
    split at hgo
    · rename_i hcond
      obtain rfl := Option.some.inj hgo
      obtain rfl := Option.some.inj h
      obtain ⟨hdone, hheld, hfirst⟩ := hcond
      exact .remove t c hc hdone hheld (by simpa using hfirst)
    · cases hgo
  | countOut =>
    simp only [Connection.letGo] at hgo
    split at hgo
    · rename_i hremoved
      obtain rfl := Option.some.inj hgo
      obtain rfl := Option.some.inj h
      exact .countOut t c hc hremoved
    · cases hgo
  | returnPermit =>
    simp only [Connection.letGo] at hgo
    split at hgo
    · rename_i hcond
      obtain rfl := Option.some.inj hgo
      obtain ⟨a, ha, h⟩ := Option.bind_eq_some_iff.1 h
      obtain rfl := Option.some.inj h
      obtain ⟨hdone, hpermit, hlast⟩ := hcond
      exact .returnPermit t c a hc ha hdone hpermit (by simpa using hlast)
    · cases hgo
  | _ => cases hgo

theorem effect_of_step (h : s.step m = some s') : Effect s m s' := by
  cases m with
  | start x => exact effect_of_starts (starts_of_start h)
  | stop x => exact effect_of_stops (stops_of_stop h)
  | outside x => exact effect_of_outside h
  | accept i am => exact effect_of_accept h
  | enrol i => exact effect_of_enrol h
  | work t cm => exact effect_of_work h
  | letGo t cm => exact effect_of_letGo h

/-- No connection is forgotten. -/
theorem exists_later {t : TaskId} {c : Connection} (h : Effect s m s') (hc : s.connections[t]? = some c) :
    ∃ c', s'.connections[t]? = some c' ∧ c.Later c' := by
  -- a move changes one connection at most, and that one into a later state of itself
  have hset : ∀ {u : TaskId} {d d' : Connection}, s.connections[u]? = some d → d.Later d' →
      ∃ c', (s.connections.set u d')[t]? = some c' ∧ c.Later c' := by
    intro u d d' hd hlater
    by_cases hut : u = t
    · subst hut
      rw [hc] at hd
      obtain rfl := Option.some.inj hd
      exact ⟨d', getElem?_set_of_getElem? hc d', hlater⟩
    · exact ⟨c, (List.getElem?_set_ne hut).trans hc, Connection.later_refl c⟩
  cases h with
  | aside hm hsame =>
    rw [hsame.connections]
    exact ⟨c, hc, Connection.later_refl c⟩
  | abort lost hst =>
    refine ⟨_, (List.getElem?_mapIdx ..).trans (congrArg _ hc), ?_⟩
    split
    · exact ⟨rfl, rfl, rfl, fun h => h⟩
    · exact Connection.later_refl c
  | spawn i a cl id ha hst =>
    exact ⟨c, (List.getElem?_append_left (length_of_getElem? hc)).trans hc, Connection.later_refl c⟩
  | dial u d rule hd hrule hidle hlive => exact hset hd ⟨rfl, rfl, rfl, fun _ => rfl⟩
  | work u cm d d' rule hm hd hrule hagree hwork => exact hset hd hwork.later
  | remove u d hd hdone hheld hfirst => exact hset hd ⟨rfl, rfl, rfl, fun h => h⟩
  | countOut u d hd hremoved => exact hset hd ⟨rfl, rfl, rfl, fun h => h⟩
  | returnPermit u d a hd ha hdone hpermit hlast => exact hset hd ⟨rfl, rfl, rfl, fun h => h⟩
  | _ => exact ⟨c, hc, Connection.later_refl c⟩

end Service

end SshTunnel

import Mathlib.Algebra.Group.Nat.Defs
import Mathlib.Data.List.Nodup
import Mathlib.Data.List.Perm.Subperm
import SshTunnel.Proofs.Service.Setup

/-!
Who is on the roster, and who ought to be.  Every registration that was begun has a seat, first with the acceptor
that makes it and then with the connection; a seat tells whether there should be an entry.  Every entry has such a
seat, whatever ids are given out, and as long as these do not begin anew every such seat has its entry.
-/

namespace SshTunnel

/-- A registration, and whether its entry should be on the roster. -/
structure Seat where
  id : UInt64
  rule : Nat
  peer : Endpoint
  listed : Bool

def Booking.seat (b : Booking) : Seat := ⟨b.id, b.rule, b.client.peer, decide (b.guard = .held)⟩

/-- The registration that the acceptor of a rule is making. -/
def Acceptor.seat? (i : Nat) (a : Acceptor) : Option Seat :=
  match a.stage with
  | .numbered c id => some ⟨id, i, c.peer, false⟩
  | .entered c id | .counted c id => some ⟨id, i, c.peer, true⟩
  | _ => none

def Roster.Entry.seat (e : Roster.Entry) : Seat := ⟨e.id, e.rule, e.peer, true⟩

/-- The entries, as registrations. -/
def Roster.seats (r : Roster) : List Seat := r.entries.map Roster.Entry.seat

namespace Roster

variable {r : Roster} {x : Seat}

theorem listed_of_mem_seats (h : x ∈ r.seats) : x.listed = true := by
  obtain ⟨e, -, rfl⟩ := List.mem_map.1 h
  rfl

theorem seats_remove (r : Roster) (id : UInt64) : (r.remove id).seats = r.seats.filter fun x => x.id ≠ id := by
  unfold seats remove
  rw [List.filter_map]
  rfl

theorem seats_insert (r : Roster) (e : Entry) :
    (r.insert e).seats = r.seats.filter (fun x => x.id ≠ e.id) ++ [e.seat] := by
  unfold seats insert
  rw [List.map_append, List.filter_map]
  rfl

theorem seats_attach (r : Roster) (id : UInt64) (task : TaskId) : (r.attach id task).seats = r.seats := by
  unfold seats attach
  rw [List.map_map]
  refine List.map_congr_left fun e _ => ?_
  dsimp only [Function.comp]
  split
  · rfl
  · rfl

theorem activeFor_eq_seats (r : Roster) (i : Nat) : r.activeFor i = r.seats.countP fun x => x.rule = i := by
  unfold activeFor seats
  rw [List.countP_map]
  rfl

end Roster

/-! ### Seats of acceptors -/

namespace Acceptor

/-- An acceptor that waits for a client or ends makes no registration. -/
theorem Steps.seat? {stopping : Bool} {a a' : Acceptor} {m : Move} (h : a.Steps stopping m a') (i : Nat) :
    a.seat? i = none ∧ a'.seat? i = none := by
  refine ⟨?_, ?_⟩
  · rcases h.stage with hs | hs | hs | hs
    all_goals rw [Acceptor.seat?, hs]
  · cases h with
    | start hs =>
      unfold Acceptor.start
      split
      · rfl
      · split
        · rfl
        · rfl
    | _ => rfl

theorem rule_of_seat? {i : Nat} {a : Acceptor} {x : Seat} (h : a.seat? i = some x) : x.rule = i := by
  unfold seat? at h
  split at h
  · obtain rfl := Option.some.inj h
    rfl
  · obtain rfl := Option.some.inj h
    rfl
  · obtain rfl := Option.some.inj h
    rfl
  · cases h

end Acceptor

/-! ### Of many at most one -/

section One

variable {α β : Type} {p : β → Bool}

theorem filterMap_id_cons (o : Option β) (l : List (Option β)) : (o :: l).filterMap id = o.toList ++ l.filterMap id := by
  cases o
  · rfl
  · rfl

theorem countP_mapIdx_eq_zero {f : Nat → α → Option β} {l : List α}
    (h : ∀ j a b, f j a = some b → p b = false) : ((l.mapIdx f).filterMap id).countP p = 0 := by
  refine List.countP_eq_zero.2 fun b hb => ?_
  obtain ⟨o, ho, rfl⟩ := List.mem_filterMap.1 hb
  obtain ⟨j, hj, hf⟩ := List.mem_mapIdx.1 ho
  rw [h j _ b hf]
  exact Bool.false_ne_true

/-- Where a property can hold at one position only, what is there decides. -/
theorem countP_mapIdx_of_only {f : Nat → α → Option β} {i : Nat} {l : List α}
    (h : ∀ j a b, f j a = some b → p b = true → j = i) :
    ((l.mapIdx f).filterMap id).countP p = (l[i]?.bind (f i)).toList.countP p := by
  -- the position that counts moves down by one with every element in front
  induction l generalizing f i with
  | nil => rfl
  | cons a l ih =>
    rw [List.mapIdx_cons, filterMap_id_cons, List.countP_append]
    cases i with
    | zero =>
      have hrest : ((l.mapIdx fun j => f (j + 1)).filterMap id).countP p = 0 := by
        refine countP_mapIdx_eq_zero fun j a b hf => ?_
        by_contra hp
        exact absurd (h _ a b hf (by simpa using hp)) (Nat.succ_ne_zero j)
      rw [hrest]
      rfl
    | succ i =>
      have hrest := ih (f := fun j => f (j + 1)) (i := i)
        fun j a b hf hp => Nat.succ.inj (h (j + 1) a b hf hp)
      have hfirst : (f 0 a).toList.countP p = 0 := by
        refine List.countP_eq_zero.2 fun b hb hp => ?_
        exact absurd (h 0 a b (Option.mem_toList.1 hb) hp) (Nat.succ_ne_zero i).symm
      rw [hrest, hfirst, Nat.zero_add]
      rfl

end One

namespace Service

variable {s s' : Service} {m : Move} {ms : List Move} {rules : List Rule} {limits : Limits} {i : Nat}
  {a a' : Acceptor} {t : TaskId} {c c' : Connection} {x : Seat}

/-- All registrations, those of the acceptors before those of the connections. -/
def seats (s : Service) : List Seat :=
  (s.acceptors.mapIdx Acceptor.seat?).filterMap id ++ s.bookings.map Booking.seat

/-- How many registrations were begun. -/
def registered (s : Service) : Nat := s.seats.length

theorem exists_seats_setAcceptor (ha : s.acceptors[i]? = some a) (a' : Acceptor) :
    ∃ rest, s.seats.Perm ((a.seat? i).toList ++ rest) ∧
      (s.setAcceptor i a').seats.Perm ((a'.seat? i).toList ++ rest) := by
  have hat : (s.acceptors.mapIdx Acceptor.seat?)[i]? = some (a.seat? i) := by
    rw [List.getElem?_mapIdx, ha]
    rfl
  obtain ⟨rest, hbefore, hafter⟩ := exists_perm_set hat (a'.seat? i)
  rw [← List.mapIdx_set] at hafter
  have hwith : ∀ {l : List (Option Seat)} {o : Option Seat}, l.Perm (o :: rest) →
      (l.filterMap id ++ s.bookings.map Booking.seat).Perm
        (o.toList ++ (rest.filterMap id ++ s.bookings.map Booking.seat)) := by
    intro l o hl
    rw [← List.append_assoc, ← filterMap_id_cons]
    exact (hl.filterMap id).append_right _
  exact ⟨_, hwith hbefore, hwith hafter⟩

theorem exists_seats_setConnection (hc : s.connections[t]? = some c) (c' : Connection) :
    ∃ rest, s.seats.Perm (c.booking.seat :: rest) ∧ (s.setConnection t c').seats.Perm (c'.booking.seat :: rest) := by
  obtain ⟨rest, hbefore, hafter⟩ := exists_perm_set hc c'
  have hwith : ∀ {l : List Connection} {d : Connection}, l.Perm (d :: rest) →
      ((s.acceptors.mapIdx Acceptor.seat?).filterMap id ++ (l.map Connection.booking).map Booking.seat).Perm
        (d.booking.seat :: ((s.acceptors.mapIdx Acceptor.seat?).filterMap id ++
          (rest.map Connection.booking).map Booking.seat)) := by
    intro l d hl
    refine (((hl.map Connection.booking).map Booking.seat).append_left _).trans ?_
    exact List.perm_middle
  exact ⟨_, hwith hbefore, hwith hafter⟩

/-- An acceptor that makes the same registration as before, or none as before. -/
theorem seats_setAcceptor (ha : s.acceptors[i]? = some a) (a' : Acceptor) (h : a'.seat? i = a.seat? i) :
    (s.setAcceptor i a').seats.Perm s.seats := by
  obtain ⟨rest, hbefore, hafter⟩ := exists_seats_setAcceptor ha a'
  rw [h] at hafter
  exact hafter.trans hbefore.symm

theorem seats_setConnection (hc : s.connections[t]? = some c) (c' : Connection) (h : c'.booking.seat = c.booking.seat) :
    (s.setConnection t c').seats.Perm s.seats := by
  obtain ⟨rest, hbefore, hafter⟩ := exists_seats_setConnection hc c'
  rw [h] at hafter
  exact hafter.trans hbefore.symm

/-! ### What a move does -/

/-- What a move does to the registrations and to the entries. -/
inductive Seating (s s' : Service) : Prop
  | same (hseats : s'.seats.Perm s.seats) (hentries : s'.roster.seats = s.roster.seats)
      (hnext : s'.roster.nextId = s.roster.nextId)
  | number (rule : Nat) (peer : Endpoint) (hseats : s'.seats.Perm (⟨s.roster.nextId, rule, peer, false⟩ :: s.seats))
      (hentries : s'.roster.seats = s.roster.seats) (hnext : s'.roster.nextId = s.roster.nextId + 1)
  | enter (x : Seat) (rest : List Seat) (hbefore : s.seats.Perm ({ x with listed := false } :: rest))
      (hafter : s'.seats.Perm ({ x with listed := true } :: rest))
      (hentries : s'.roster.seats = s.roster.seats.filter (fun y => y.id ≠ x.id) ++ [{ x with listed := true }])
      (hnext : s'.roster.nextId = s.roster.nextId)
  | leave (x : Seat) (rest : List Seat) (hbefore : s.seats.Perm ({ x with listed := true } :: rest))
      (hafter : s'.seats.Perm ({ x with listed := false } :: rest))
      (hentries : s'.roster.seats = s.roster.seats.filter fun y => y.id ≠ x.id)
      (hnext : s'.roster.nextId = s.roster.nextId)

theorem seating_of_effect (h : Effect s m s') (hv : s.stage.isEarly = true → Vacant s) : Seating s s' := by
  -- only numbering, entering and leaving change the seats; all other moves keep them but for their order
  cases h with
  | aside hm hsame =>
    refine .same ?_ (congrArg Roster.seats hsame.roster) (congrArg Roster.nextId hsame.roster)
    unfold seats bookings
    rw [hsame.acceptors, hsame.connections]
  | bound system ls hst hls =>
    have hvac := hv (by rw [hst]; rfl)
    refine .same ?_ rfl rfl
    have hbefore : s.seats = s.bookings.map Booking.seat := by
      unfold seats
      rw [hvac.acceptors]
      rfl
    -- the acceptors are new, and new ones are not registering anybody
    have hnone : ((ls.map fun _ => ({ cap := s.limits.maxConnections } : Acceptor)).mapIdx
        Acceptor.seat?).filterMap id = [] := by
      refine List.filterMap_eq_nil_iff.2 fun o ho => ?_
      obtain ⟨j, hj, rfl⟩ := List.mem_mapIdx.1 ho
      rw [List.getElem_map]
      rfl
    rw [hbefore]
    unfold seats
    rw [hnone]
    exact .refl _
  | abort lost hst =>
    refine .same ?_ rfl rfl
    have hb : s.abortAll.bookings = s.bookings := bookings_abortAll s
    have hseats : s.abortAll.seats = s.seats := by
      unfold seats
      rw [hb]
      rfl
    exact .of_eq hseats
  | connect j b peer hb hopen => exact .same (seats_setAcceptor hb _ rfl) rfl rfl
  | clientSends n bs => exact .same (.refl _) rfl rfl
  | channelSends u bs => exact .same (.refl _) rfl rfl
  | accept j b b' am hb hstep =>
    obtain ⟨hbefore, hafter⟩ := hstep.seat? j
    exact .same (seats_setAcceptor hb _ (hafter.trans hbefore.symm)) rfl rfl
  | number j b cl hb hst =>
    obtain ⟨rest, hbefore, hafter⟩ := exists_seats_setAcceptor hb { b with stage := .numbered cl s.roster.nextId }
    have hnone : b.seat? j = none := by rw [Acceptor.seat?, hst]
    rw [hnone] at hbefore
    exact .number j cl.peer (hafter.trans (hbefore.symm.cons _)) rfl rfl
  | enter j b cl id hb hst =>
    obtain ⟨rest, hbefore, hafter⟩ := exists_seats_setAcceptor hb { b with stage := .entered cl id }
    have hsome : b.seat? j = some ⟨id, j, cl.peer, false⟩ := by rw [Acceptor.seat?, hst]
    rw [hsome] at hbefore
    exact .enter ⟨id, j, cl.peer, true⟩ rest hbefore hafter (Roster.seats_insert ..) rfl
  | count j b cl id hb hst =>
    have hsame : Acceptor.seat? j { b with stage := .counted cl id } = b.seat? j := by
      rw [Acceptor.seat?, Acceptor.seat?, hst]
    exact .same (seats_setAcceptor hb _ hsame) rfl rfl
  | spawn j b cl id hb hst =>
    obtain ⟨rest, hbefore, hafter⟩ :=
      exists_seats_setAcceptor hb { b with stage := .spawned id s.connections.length, permit := false }
    have hsome : b.seat? j = some ⟨id, j, cl.peer, true⟩ := by rw [Acceptor.seat?, hst]
    rw [hsome] at hbefore
    refine .same ?_ rfl rfl
    -- the seat goes over from the acceptor to the connection that it starts
    refine .trans ?_ (((List.perm_append_singleton _ _).trans (hafter.cons _)).trans hbefore.symm)
    unfold seats bookings
    rw [List.map_append, List.map_append, ← List.append_assoc]
    exact .refl _
  | note j b id task hb hst =>
    have hnone : Acceptor.seat? j { b with stage := .ready } = b.seat? j := by
      rw [Acceptor.seat?, Acceptor.seat?, hst]
    exact .same (seats_setAcceptor hb _ hnone) (Roster.seats_attach ..) rfl
  | dial u d rule hd hrule hnew hlive => exact .same (seats_setConnection hd _ rfl) rfl rfl
  | work u cm d d' rule hm hd hrule hagree hwork =>
    exact .same (seats_setConnection hd _ (congrArg Booking.seat hwork.booking)) rfl rfl
  | remove u d hd hdone hheld hfirst =>
    obtain ⟨rest, hbefore, hafter⟩ := exists_seats_setConnection hd { d with guard := .removed }
    have hlisted : d.booking.seat = ⟨d.id, d.rule, d.client.peer, true⟩ := by
      simp [Connection.booking, Booking.seat, hheld]
    rw [hlisted] at hbefore
    exact .leave ⟨d.id, d.rule, d.client.peer, true⟩ rest hbefore hafter (Roster.seats_remove ..) rfl
  | countOut u d hd hremoved =>
    refine .same (seats_setConnection hd _ ?_) rfl rfl
    simp [Connection.booking, Booking.seat, hremoved]
  | returnPermit u d b hd hb hdone hpermit hlast =>
    have hback := seats_setConnection hd { d with permit := false } rfl
    have hfree := seats_setAcceptor (s := s.setConnection u { d with permit := false }) hb
      { b with free := b.free + 1 } rfl
    exact .same (hfree.trans hback) rfl rfl

theorem seating_of_step {ms : List Move} (hrun : (forRules rules limits).run ms = some s)
    (hs : s.step m = some s') : Seating s s' :=
  seating_of_effect (effect_of_step hs) (vacant_of_run hrun)

end Service

end SshTunnel

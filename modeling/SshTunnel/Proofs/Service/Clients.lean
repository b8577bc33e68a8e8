import Mathlib.Data.List.Perm.Subperm
import SshTunnel.Proofs.Service.Setup

/-!
Clients, from when they connect until a task has taken them over.  An acceptor accepts them in the order in which
they connect to its own listener, registers each one, and hands it on before it accepts the next.
-/

namespace SshTunnel

/-- The client that was accepted and has no task yet. -/
def Acceptor.Stage.client? : Acceptor.Stage → Option Client
  | holding c | numbered c _ | entered c _ | counted c _ => some c
  | _ => none

/-- The same, where its entry is on the roster. -/
def Acceptor.Stage.enlisted? : Acceptor.Stage → Option Client
  | entered c _ | counted c _ => some c
  | _ => none

/-- Whoever has no entry yet was accepted last, and its id is being taken or its entry put in. -/
theorem Acceptor.Stage.client?_cases (stage : Acceptor.Stage) : stage.client? = stage.enlisted? ∨
    ∃ c, stage.client? = some c ∧ stage.enlisted? = none ∧ (stage = .holding c ∨ ∃ id, stage = .numbered c id) := by
  cases stage with
  | holding c => exact Or.inr ⟨c, rfl, rfl, Or.inl rfl⟩
  | numbered c id => exact Or.inr ⟨c, rfl, rfl, Or.inr ⟨id, rfl⟩⟩
  | _ => exact Or.inl rfl

/-! ### One line -/

/-- The stage of an acceptor, and the clients that wait there. -/
def Acceptor.line (a : Acceptor) : Acceptor.Stage × List Client := (a.stage, a.backlog)

/-- The clients of one rule: those that have connected, in their order, begin with those that were accepted, and
these with those that have a task.  Only the last one that was accepted can be without a task, or not registered. -/
structure Line (at? : Option (Acceptor.Stage × List Client)) (served arrived accepted registered : List Client) :
    Prop where
  order : ∃ rest, arrived = accepted ++ rest ∧
    ∀ stage waiting, at? = some (stage, waiting) → stage ≠ .ended → stage ≠ .broken → rest = waiting
  handed : accepted = served ++ (at?.bind fun x => x.1.client?).toList
  entered : registered = served ++ (at?.bind fun x => x.1.enlisted?).toList
  nobody : at? = none → arrived = []

namespace Line

variable {served arrived accepted registered waiting waiting' : List Client} {stage stage' : Acceptor.Stage}
  {c : Client} {id : UInt64} {task : Nat}

theorem accepted_isPrefix {l : Option (Acceptor.Stage × List Client)} (h : Line l served arrived accepted registered) :
    accepted <+: arrived := by
  obtain ⟨rest, harr, -⟩ := h.order
  exact ⟨rest, harr.symm⟩

theorem served_isPrefix {l : Option (Acceptor.Stage × List Client)} (h : Line l served arrived accepted registered) :
    served <+: accepted := ⟨_, h.handed.symm⟩

/-- Everybody who was accepted was registered, in the same order, but for the last who may be about to be. -/
theorem accepted_cases {l : Option (Acceptor.Stage × List Client)} (h : Line l served arrived accepted registered) :
    accepted = registered ∨ ∃ c stage waiting, l = some (stage, waiting) ∧ accepted = registered ++ [c] ∧
      (stage = .holding c ∨ ∃ id, stage = .numbered c id) := by
  have hhanded := h.handed
  have hentered := h.entered
  cases l with
  | none => exact Or.inl (hhanded.trans hentered.symm)
  | some x =>
    obtain ⟨stage, waiting⟩ := x
    rw [Option.bind_some] at hhanded hentered
    rcases stage.client?_cases with hsame | ⟨c, hclient, hnone, hstage⟩
    · rw [hsame] at hhanded
      exact Or.inl (hhanded.trans hentered.symm)
    · rw [hclient] at hhanded
      rw [hnone, Option.toList_none, List.append_nil] at hentered
      exact Or.inr ⟨c, stage, waiting, rfl, hentered ▸ hhanded, hstage⟩

theorem empty : Line none [] [] [] [] := ⟨⟨[], rfl, nofun⟩, rfl, rfl, fun _ => rfl⟩

/-- An acceptor begins. -/
theorem begin (h : Line none served arrived accepted registered) :
    Line (some (.starting, [])) served arrived accepted registered := by
  obtain ⟨⟨rest, harr, -⟩, hacc, hreg, hnone⟩ := h
  refine ⟨⟨rest, harr, fun stage waiting heq _ _ => ?_⟩, hacc, hreg, nofun⟩
  obtain ⟨-, rfl⟩ := Prod.mk.inj (Option.some.inj heq)
  rw [hnone rfl] at harr
  exact (List.append_eq_nil_iff.1 harr.symm).2

/-- An acceptor goes on, while at most one client gets a task, arrives, is accepted, or is registered. -/
def Goes (l l' : Acceptor.Stage × List Client) (task arrival acceptance registration : Option Client) : Prop :=
  ∀ served arrived accepted registered : List Client, Line (some l) served arrived accepted registered →
    Line (some l') (served ++ task.toList) (arrived ++ arrival.toList) (accepted ++ acceptance.toList)
      (registered ++ registration.toList)

theorem goes_connect (hended : stage ≠ .ended) (hbroken : stage ≠ .broken) (c : Client) :
    Goes (stage, waiting) (stage, waiting ++ [c]) none (some c) none none := by
  rintro served arrived accepted registered ⟨⟨rest, harr, hrest⟩, hacc, hreg, -⟩
  simp only [Option.toList_none, Option.toList_some, List.append_nil]
  obtain rfl := hrest stage waiting rfl hended hbroken
  refine ⟨⟨rest ++ [c], ?_, fun stage' waiting' heq _ _ => ?_⟩, hacc, hreg, nofun⟩
  · rw [harr, List.append_assoc]
  · exact (Prod.mk.inj (Option.some.inj heq)).2

theorem goes_accept (c : Client) : Goes (.listening, c :: waiting) (.holding c, waiting) none none (some c) none := by
  rintro served arrived accepted registered ⟨⟨rest, harr, hrest⟩, hacc, hreg, -⟩
  simp only [Option.toList_none, Option.toList_some, List.append_nil]
  obtain rfl := hrest _ _ rfl nofun nofun
  refine ⟨⟨waiting, ?_, fun stage' waiting' heq _ _ => ?_⟩, ?_, hreg, nofun⟩
  · rw [harr, List.append_assoc, List.singleton_append]
  · exact (Prod.mk.inj (Option.some.inj heq)).2
  · rw [hacc]
    exact List.append_assoc ..

/-- It goes on with the client it has, or without one, or ends. -/
theorem goes_on (hclient : stage'.client? = stage.client?) (henlisted : stage'.enlisted? = stage.enlisted?)
    (hopen : stage' ≠ .ended → stage' ≠ .broken → (stage ≠ .ended ∧ stage ≠ .broken) ∧ waiting' = waiting) :
    Goes (stage, waiting) (stage', waiting') none none none none := by
  rintro served arrived accepted registered ⟨⟨rest, harr, hrest⟩, hacc, hreg, -⟩
  simp only [Option.toList_none, List.append_nil]
  refine ⟨⟨rest, harr, fun st w heq hended hbroken => ?_⟩, ?_, ?_, nofun⟩
  · obtain ⟨rfl, rfl⟩ := Prod.mk.inj (Option.some.inj heq)
    obtain ⟨⟨hended', hbroken'⟩, rfl⟩ := hopen hended hbroken
    exact hrest _ _ rfl hended' hbroken'
  · rw [hacc]
    exact congrArg (served ++ ·) (congrArg Option.toList hclient.symm)
  · rw [hreg]
    exact congrArg (served ++ ·) (congrArg Option.toList henlisted.symm)

theorem goes_register : Goes (.numbered c id, waiting) (.entered c id, waiting) none none none (some c) := by
  rintro served arrived accepted registered ⟨⟨rest, harr, hrest⟩, hacc, hreg, -⟩
  simp only [Option.toList_none, Option.toList_some, List.append_nil]
  refine ⟨⟨rest, harr, fun st w heq _ _ => ?_⟩, hacc, ?_, nofun⟩
  · obtain ⟨rfl, rfl⟩ := Prod.mk.inj (Option.some.inj heq)
    exact hrest _ _ rfl nofun nofun
  · rw [hreg]
    exact List.append_assoc ..

theorem goes_spawn : Goes (.counted c id, waiting) (.spawned id task, waiting) (some c) none none none := by
  rintro served arrived accepted registered ⟨⟨rest, harr, hrest⟩, hacc, hreg, -⟩
  simp only [Option.toList_none, Option.toList_some, List.append_nil]
  refine ⟨⟨rest, harr, fun st w heq _ _ => ?_⟩, ?_, ?_, nofun⟩
  · obtain ⟨rfl, rfl⟩ := Prod.mk.inj (Option.some.inj heq)
    exact hrest _ _ rfl nofun nofun
  · rw [hacc]
    exact (List.append_nil _).symm
  · rw [hreg]
    exact (List.append_nil _).symm

end Line

/-- The moves of an acceptor by itself other than taking a client. -/
theorem Acceptor.Steps.goes {stopping : Bool} {a a' : Acceptor} {m : Move} (h : a.Steps stopping m a')
    (hm : m ≠ .accept) : Line.Goes a.line a'.line none none none none := by
  have hfree : (a.stage.client? = none ∧ a.stage.enlisted? = none) ∧ a.stage ≠ .ended ∧ a.stage ≠ .broken := by
    rcases h.stage with hs | hs | hs | hs
    all_goals
      rw [hs]
      exact ⟨⟨rfl, rfl⟩, nofun, nofun⟩
  -- before and after such a move there is nobody in hand, and who waits goes on waiting unless it ends
  have hgo : ∀ b : Acceptor, b.stage.client? = none → b.stage.enlisted? = none →
      (b.stage ≠ .ended → b.stage ≠ .broken → b.backlog = a.backlog) →
      Line.Goes a.line b.line none none none none := by
    intro b hclient henlisted hwait
    exact Line.goes_on (hclient.trans hfree.1.1.symm) (henlisted.trans hfree.1.2.symm)
      fun hended hbroken => ⟨hfree.2, hwait hended hbroken⟩
  cases h with
  | start hs =>
    unfold Acceptor.start
    split
    · exact hgo _ rfl rfl fun _ _ => rfl
    · split
      · exact hgo _ rfl rfl fun _ hne => absurd rfl hne
      · exact hgo _ rfl rfl fun _ _ => rfl
  | accept c cs hs hwait => exact absurd rfl hm
  | quit hs hstop => exact hgo _ rfl rfl fun hne => absurd rfl hne
  | pass hs hcap => exact hgo _ rfl rfl fun _ _ => rfl
  | take n k hs hcap hfree => exact hgo _ rfl rfl fun _ _ => rfl
  | fail hs => exact hgo _ rfl rfl fun _ _ => rfl
  | resume hs => exact hgo _ rfl rfl fun _ _ => rfl

/-! ### What happens in a run -/

namespace Service

variable {s s' : Service} {m : Move} {ms : List Move} {rules : List Rule} {limits : Limits} {i j : Nat}
  {a a' : Acceptor} {t : TaskId} {c c' : Connection} {β : Type}

/-- What a run shows, where `f` tells what a move shows. -/
def traced (f : Service → Move → Option β) : Service → List Move → List β
  | _, [] => []
  | s, m :: ms => (f s m).toList ++ ((s.step m).map fun s' => traced f s' ms).getD []

theorem traced_eq_shown (f : Service → Move → Option β) (s : Service) (ms : List Move) :
    traced f s ms = shown step f s ms := by
  induction ms generalizing s with
  | nil => rfl
  | cons m ms ih => simp only [traced, shown, ih]

theorem traced_snoc (f : Service → Move → Option β) {s₀ : Service} (h : s₀.run ms = some s) :
    traced f s₀ (ms ++ [m]) = traced f s₀ ms ++ (f s m).toList := by
  rw [traced_eq_shown, traced_eq_shown]
  exact isRun.shown_snoc f h

/-- A client connects to the listener of a rule. -/
def arrival? (s : Service) : Move → Option (Nat × Client)
  | .outside (.connect i peer) => some (i, ⟨s.clientStreams.length, peer⟩)
  | _ => none

/-- The acceptor of a rule takes a client from its listener. -/
def acceptance? (s : Service) : Move → Option (Nat × Client)
  | .accept i .accept => s.acceptors[i]?.bind fun a => a.backlog.head?.map fun c => (i, c)
  | _ => none

/-- The acceptor of a rule puts an entry in for a client. -/
def registration? (s : Service) : Move → Option (Nat × Client)
  | .enrol i => s.acceptors[i]?.bind fun a => match a.stage with
    | .numbered c _ => some (i, c)
    | _ => none
  | _ => none

/-- The clients of a rule. -/
def clientsOf (i : Nat) (l : List (Nat × Client)) : List Client := l.filterMap fun x => if x.1 = i then some x.2 else none

theorem clientsOf_append (i : Nat) (l l' : List (Nat × Client)) :
    clientsOf i (l ++ l') = clientsOf i l ++ clientsOf i l' := List.filterMap_append

theorem clientsOf_self (i : Nat) (c : Client) : clientsOf i [(i, c)] = [c] := by simp [clientsOf]

theorem clientsOf_of_ne {c : Client} (h : j ≠ i) : clientsOf i [(j, c)] = [] := by simp [clientsOf, h]

theorem count_clientsOf (i : Nat) (c : Client) (l : List (Nat × Client)) : (clientsOf i l).count c = l.count (i, c) := by
  induction l with
  | nil => rfl
  | cons x l ih =>
    obtain ⟨j, d⟩ := x
    have hsplit : clientsOf i ((j, d) :: l) = clientsOf i [(j, d)] ++ clientsOf i l :=
      clientsOf_append i [(j, d)] l
    rw [hsplit, List.count_append, ih, List.count_cons]
    by_cases hj : j = i
    · subst hj
      rw [clientsOf_self, List.count_singleton, Nat.add_comm]
      simp
    · rw [clientsOf_of_ne hj]
      simp [hj]

/-- The clients that have a task, with their rules. -/
def served (s : Service) : List (Nat × Client) := s.bookings.map fun b => (b.rule, b.client)

/-- The line of a rule, and what the moves so far show of it. -/
def InLine (i : Nat) (s : Service) (arrived accepted registered : List (Nat × Client)) : Prop :=
  Line (s.acceptors[i]?.map Acceptor.line) (clientsOf i s.served) (clientsOf i arrived) (clientsOf i accepted)
    (clientsOf i registered)

section Steps

variable {arrived accepted registered : List (Nat × Client)}

/-- A move by which nobody arrives or is handed on. -/
theorem InLine.same (h : InLine i s arrived accepted registered)
    (hacc : s'.acceptors[i]?.map Acceptor.line = s.acceptors[i]?.map Acceptor.line) (hserved : s'.served = s.served) :
    InLine i s' (arrived ++ []) (accepted ++ []) (registered ++ []) := by
  unfold InLine
  rw [hacc, hserved, List.append_nil, List.append_nil, List.append_nil]
  exact h

theorem served_of_connections (h : s'.connections.map (fun c => (c.rule, c.client)) =
    s.connections.map fun c => (c.rule, c.client)) : s'.served = s.served := by
  unfold served bookings
  rw [List.map_map, List.map_map]
  exact h

/-- A change to a connection that keeps its rule and its client. -/
theorem served_setConnection (hc : s.connections[t]? = some c) (c' : Connection)
    (h : c'.booking.rule = c.booking.rule) (h' : c'.booking.client = c.booking.client) :
    (s.setConnection t c').served = s.served := by
  refine served_of_connections (map_set_of_eq hc ?_)
  exact Prod.ext h h'

theorem line_at_set {l : List Acceptor} (ha : l[j]? = some a) (hij : j ≠ i ∨ a'.line = a.line) :
    (l.set j a')[i]?.map Acceptor.line = l[i]?.map Acceptor.line := by
  by_cases hi : j = i
  · subst hi
    rw [getElem?_set_of_getElem? ha, ha]
    exact congrArg some (hij.resolve_left fun hne => hne rfl)
  · rw [List.getElem?_set_ne hi]

/-- At most one client, of the rule that the move is about. -/
theorem clientsOf_map (i j : Nat) (o : Option Client) :
    clientsOf i (o.map fun c => (j, c)).toList = if j = i then o.toList else [] := by
  cases o with
  | none =>
    split
    · rfl
    · rfl
  | some c =>
    split
    · rename_i hj
      rw [hj]
      exact clientsOf_self i c
    · rename_i hj
      exact clientsOf_of_ne hj

/-- A move of the acceptor of a rule, this one or another. -/
theorem InLine.goes (task arrival acceptance registration : Option Client) (h : InLine i s arrived accepted registered)
    (ha : s.acceptors[j]? = some a) (hacc : s'.acceptors = s.acceptors.set j a')
    (hserved : s'.served = s.served ++ (task.map fun c => (j, c)).toList)
    (hgo : Line.Goes a.line a'.line task arrival acceptance registration) :
    InLine i s' (arrived ++ (arrival.map fun c => (j, c)).toList) (accepted ++ (acceptance.map fun c => (j, c)).toList)
      (registered ++ (registration.map fun c => (j, c)).toList) := by
  unfold InLine at h ⊢
  rw [hacc, hserved, clientsOf_append, clientsOf_append, clientsOf_append, clientsOf_append, clientsOf_map,
    clientsOf_map, clientsOf_map, clientsOf_map]
  by_cases hj : j = i
  · subst hj
    rw [if_pos rfl, if_pos rfl, if_pos rfl, if_pos rfl, getElem?_set_of_getElem? ha]
    rw [ha] at h
    exact hgo _ _ _ _ h
  · rw [if_neg hj, if_neg hj, if_neg hj, if_neg hj, line_at_set ha (Or.inl hj), List.append_nil, List.append_nil,
      List.append_nil, List.append_nil]
    exact h

/-- The line of a rule after a move, whatever it is about. -/
theorem InLine.step (h : InLine i s arrived accepted registered) (heff : Effect s m s')
    (hv : s.stage.isEarly = true → Vacant s) :
    InLine i s' (arrived ++ (s.arrival? m).toList) (accepted ++ (s.acceptance? m).toList)
      (registered ++ (s.registration? m).toList) := by
  -- a case for each kind of move: only those of acceptors and of clients that arrive touch a line
  cases heff with
  | aside hm hsame =>
    have hnone : s.arrival? m = none ∧ s.acceptance? m = none ∧ s.registration? m = none := by
      cases m with
      | outside o =>
        cases o with
        | connect => cases hm
        | _ => exact ⟨rfl, rfl, rfl⟩
      | start | stop => exact ⟨rfl, rfl, rfl⟩
      | accept | enrol | work | letGo => cases hm
    rw [hnone.1, hnone.2.1, hnone.2.2]
    refine h.same (by rw [hsame.acceptors]) ?_
    exact served_of_connections (congrArg (List.map _) hsame.connections)
  | bound system ls hst hls =>
    have hvac := hv (by rw [hst]; rfl)
    -- the listeners are new, so that there was no line and nobody in it
    have hbefore : s.acceptors[i]? = none := by
      rw [hvac.acceptors]
      rfl
    unfold InLine at h ⊢
    rw [hbefore] at h
    simp only [arrival?, acceptance?, registration?, Option.toList_none, List.append_nil, List.getElem?_map,
      Option.map_map]
    cases ls[i]? with
    | none => exact h
    | some l => exact h.begin
  | abort lost hst =>
    have hbook : s.abortAll.bookings = s.bookings := bookings_abortAll s
    exact h.same rfl (congrArg (List.map fun b : Booking => (b.rule, b.client)) hbook)
  | connect j a peer ha hopen =>
    have hstage : a.stage ≠ .ended ∧ a.stage ≠ .broken := by simpa [Acceptor.isOpen] using hopen
    exact h.goes none (some ⟨s.clientStreams.length, peer⟩) none none ha rfl (List.append_nil _).symm
      (Line.goes_connect hstage.1 hstage.2 _)
  | clientSends n b => exact h.same rfl rfl
  | channelSends u b => exact h.same rfl rfl
  | accept j a a' am ha hstep =>
    -- of the moves that an acceptor makes by itself only the taking of a client is seen
    by_cases ham : am = .accept
    · subst ham
      cases hstep with
      | accept c cs hst hwait =>
        have hevent : s.acceptance? (.accept j .accept) = some (j, c) := by simp [acceptance?, ha, hwait]
        rw [hevent]
        refine h.goes none none (some c) none ha rfl (List.append_nil _).symm ?_
        rw [Acceptor.line, hst, hwait]
        exact Line.goes_accept c
    · have hevent : s.acceptance? (.accept j am) = none := by
        cases am with
        | accept => exact absurd rfl ham
        | _ => rfl
      rw [hevent]
      exact h.goes none none none none ha rfl (List.append_nil _).symm (hstep.goes ham)
  | number j a c ha hst =>
    have hevent : s.registration? (.enrol j) = none := by simp [registration?, ha, hst]
    rw [hevent]
    refine h.goes none none none none ha rfl (List.append_nil _).symm ?_
    rw [Acceptor.line, hst]
    exact Line.goes_on rfl rfl fun _ _ => ⟨⟨nofun, nofun⟩, rfl⟩
  | enter j a c id ha hst =>
    -- the one step of a registration that puts the entry in
    have hevent : s.registration? (.enrol j) = some (j, c) := by simp [registration?, ha, hst]
    rw [hevent]
    refine h.goes none none none (some c) ha rfl (List.append_nil _).symm ?_
    rw [Acceptor.line, hst]
    exact Line.goes_register
  | count j a c id ha hst =>
    have hevent : s.registration? (.enrol j) = none := by simp [registration?, ha, hst]
    rw [hevent]
    refine h.goes none none none none ha rfl (List.append_nil _).symm ?_
    rw [Acceptor.line, hst]
    exact Line.goes_on rfl rfl fun _ _ => ⟨⟨nofun, nofun⟩, rfl⟩
  | spawn j a c id ha hst =>
    have hevent : s.registration? (.enrol j) = none := by simp [registration?, ha, hst]
    -- the client leaves its acceptor and is the last of those that have a task
    have hserved : (s.connections ++ [({ client := c, id, rule := j, permit := a.permit } : Connection)]).map
        (fun d => (d.rule, d.client)) = s.connections.map (fun d => (d.rule, d.client)) ++ [(j, c)] :=
      List.map_append
    rw [hevent]
    refine h.goes (some c) none none none ha rfl ?_ ?_
    · unfold served bookings
      rw [List.map_map, List.map_map]
      exact hserved
    · rw [Acceptor.line, hst]
      exact Line.goes_spawn
  | note j a id task ha hst =>
    have hevent : s.registration? (.enrol j) = none := by simp [registration?, ha, hst]
    rw [hevent]
    refine h.goes none none none none ha rfl (List.append_nil _).symm ?_
    rw [Acceptor.line, hst]
    exact Line.goes_on rfl rfl fun _ _ => ⟨⟨nofun, nofun⟩, rfl⟩
  | dial u d rule hd hrule hidle hlive =>
    exact h.same rfl (served_setConnection hd { d with forwarder := some .dialing } rfl rfl)
  | work u cm d d' rule hm hd hrule hagree hwork =>
    exact h.same rfl
      (served_setConnection hd d' (congrArg Booking.rule hwork.booking) (congrArg Booking.client hwork.booking))
  | remove u d hd hdone hheld hfirst =>
    exact h.same rfl (served_setConnection hd { d with guard := .removed } rfl rfl)
  | countOut u d hd hremoved =>
    exact h.same rfl (served_setConnection hd { d with guard := .released } rfl rfl)
  | returnPermit u d a hd ha hdone hpermit hlast =>
    exact h.same (line_at_set ha (Or.inr rfl)) (served_setConnection hd { d with permit := false } rfl rfl)

end Steps

theorem inLine_of_run (i : Nat) (h : (forRules rules limits).run ms = some s) :
    InLine i s (traced arrival? (forRules rules limits) ms) (traced acceptance? (forRules rules limits) ms)
      (traced registration? (forRules rules limits) ms) := by
  refine run_induction (P := fun ms s => InLine i s (traced arrival? (forRules rules limits) ms)
    (traced acceptance? (forRules rules limits) ms) (traced registration? (forRules rules limits) ms)) ?_ ?_ h
  · exact Line.empty
  · intro ms m s s' hrun hline hs
    rw [traced_snoc _ hrun, traced_snoc _ hrun, traced_snoc _ hrun]
    exact hline.step (effect_of_step hs) (vacant_of_run hrun)

/-! ### Nobody twice -/

/-- Clients are numbered in the order in which they connect. -/
theorem arrival_numbers (h : (forRules rules limits).run ms = some s) :
    (traced arrival? (forRules rules limits) ms).map (fun x => x.2.number) = List.range s.clientStreams.length := by
  refine run_induction (P := fun ms s => (traced arrival? (forRules rules limits) ms).map (fun x => x.2.number) =
    List.range s.clientStreams.length) ?_ ?_ h
  · rfl
  intro ms m s s' hrun hall hs
  rw [traced_snoc _ hrun, List.map_append, hall]
  -- whoever connects gets the next number, and no other move adds a stream
  have hsame : s.arrival? m = none → s'.clientStreams.length = s.clientStreams.length →
      List.range s.clientStreams.length ++ (s.arrival? m).toList.map (fun x => x.2.number) =
        List.range s'.clientStreams.length := by
    intro hnone hlen
    rw [hnone, hlen]
    exact List.append_nil _
  cases effect_of_step hs with
  | aside hm hparts =>
    refine hsame ?_ (congrArg List.length hparts.clientStreams)
    cases m with
    | outside o =>
      cases o with
      | connect => cases hm
      | _ => rfl
    | _ => rfl
  | connect i a peer ha hopen =>
    dsimp only
    rw [List.length_append, List.length_singleton, List.range_succ]
    rfl
  | clientSends n b => exact hsame rfl (List.length_modify ..)
  | _ => exact hsame rfl rfl

/-- Where the clients of every rule come from, with the rules. -/
theorem subperm_of_clientsOf {l l' : List (Nat × Client)} (h : ∀ i, clientsOf i l <+: clientsOf i l') :
    l.Subperm l' := by
  refine List.subperm_ext_iff.2 fun x _ => ?_
  obtain ⟨i, c⟩ := x
  rw [← count_clientsOf, ← count_clientsOf]
  exact (h i).sublist.count_le _

/-- Clients of different rules, or of one, are different. -/
theorem numbers_nodup {l : List (Nat × Client)} (h : (forRules rules limits).run ms = some s)
    (hl : ∀ i, clientsOf i l <+: clientsOf i (traced arrival? (forRules rules limits) ms)) :
    (l.map fun x => x.2.number).Nodup := by
  -- all clients of the list are among those that arrived, whose numbers are different
  obtain ⟨l', hperm, hsub⟩ := subperm_of_clientsOf hl
  have hnumbers := hsub.map (fun x : Nat × Client => x.2.number)
  rw [arrival_numbers h] at hnumbers
  exact (hperm.map _).nodup_iff.1 (List.nodup_range.sublist hnumbers)

theorem acceptance_numbers_nodup (h : (forRules rules limits).run ms = some s) :
    ((traced acceptance? (forRules rules limits) ms).map fun x => x.2.number).Nodup :=
  numbers_nodup h fun i => (inLine_of_run i h).accepted_isPrefix

theorem client_numbers_nodup (h : (forRules rules limits).run ms = some s) :
    (s.connections.map fun c => c.client.number).Nodup := by
  have hserved := numbers_nodup h fun i => (inLine_of_run i h).served_isPrefix.trans (inLine_of_run i h).accepted_isPrefix
  unfold served bookings at hserved
  rw [List.map_map, List.map_map] at hserved
  exact hserved

end Service

end SshTunnel

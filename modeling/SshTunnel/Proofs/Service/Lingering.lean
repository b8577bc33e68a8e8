import SshTunnel.Proofs.Service.Draining
import SshTunnel.Proofs.Service.Finishing
import SshTunnel.Proofs.Service.Serving
import SshTunnel.Proofs.Service.Yielding

/-!
Accepting after a request to stop.  The request is one of several things an acceptor may go by next, and none of them
comes first; so it may take another client as long as it has not ended, wherever it is when it is told.  It may also
end without.
-/

namespace SshTunnel

namespace Acceptor

/-- There are permits, and they can be made. -/
def Admits (cap : Option Nat) : Prop := ∀ n, cap = some n → 0 < n ∧ n ≤ maxPermits

theorem Admits.fits {cap : Option Nat} (h : Admits cap) : Fits cap := fun n hn => (h n hn).2

/-- Only an acceptor that has not ended moves. -/
theorem Steps.isOpen {stopping : Bool} {a a' : Acceptor} {m : Move} (h : a.Steps stopping m a') : a.isOpen = true := by
  rcases h.stage with hst | hst | hst | hst
  all_goals simp [Acceptor.isOpen, hst]

end Acceptor

namespace Service

variable {s s' : Service} {m : Move} {ms more : List Move} {rules : List Rule} {limits : Limits} {i : Nat}
  {a a' : Acceptor} {am : Acceptor.Move} {c : Client} {id : UInt64}

/-- The acceptor may take one more client from its listener and put it on the roster. -/
def TakesOn (s : Service) (i : Nat) : Prop :=
  ∃ more s' c id, s.run (more ++ [.accept i .accept, .enrol i, .enrol i]) = some s' ∧
    s'.acceptors[i]?.map Acceptor.stage = some (.entered c id) ∧ ⟨id, i, c.peer, none⟩ ∈ s'.roster.entries

/-! ### Another client -/

theorem TakesOn.of_run (h : TakesOn s' i) (hr : s.run more = some s') : TakesOn s i := by
  obtain ⟨more', s'', c, id, hrun, hat⟩ := h
  refine ⟨more ++ more', s'', c, id, ?_, hat⟩
  rw [List.append_assoc, run_append, hr]
  exact hrun

theorem TakesOn.of_step (h : TakesOn s' i) (hs : s.step m = some s') : TakesOn s i := by
  have hr : s.run [m] = some s' := by
    rw [run, hs]
    rfl
  exact h.of_run hr

theorem step_accept (ha : s.acceptors[i]? = some a) (h : a.step s.isStopping am = some a') :
    s.step (.accept i am) = some (s.setAcceptor i a') := by
  simp [step, accept, ha, h]

/-- The first step with a client that was taken from the listener: it gets an id. -/
theorem exists_numbered (ha : s.acceptors[i]? = some a) (hst : a.stage = .holding c) :
    ∃ s' a' id, s.step (.enrol i) = some s' ∧ s'.acceptors[i]? = some a' ∧ a'.stage = .numbered c id := by
  have hstep : s.step (.enrol i) = some { s.setAcceptor i { a with stage := .numbered c s.roster.nextId } with
      roster := s.roster.takeId.2 } := by
    simp [step, enrol, ha, hst, Roster.takeId]
  exact ⟨_, _, s.roster.nextId, hstep, getElem?_set_of_getElem? ha _, rfl⟩

/-- The second: it is put on the roster. -/
theorem exists_entered (ha : s.acceptors[i]? = some a) (hst : a.stage = .numbered c id) :
    ∃ s' a', s.step (.enrol i) = some s' ∧ s'.acceptors[i]? = some a' ∧ a'.stage = .entered c id ∧
      ⟨id, i, c.peer, none⟩ ∈ s'.roster.entries := by
  have hstep : s.step (.enrol i) = some { s.setAcceptor i { a with stage := .entered c id } with
      roster := s.roster.insert ⟨id, i, c.peer, none⟩ } := by
    simp [step, enrol, ha, hst]
  exact ⟨_, _, hstep, getElem?_set_of_getElem? ha _, rfl, List.mem_append_right _ (List.mem_singleton_self _)⟩

/-- A client that waits at the listener may be the next. -/
theorem takesOn_of_waiting {cs : List Client} (ha : s.acceptors[i]? = some a) (hst : a.stage = .listening)
    (hwait : a.backlog = c :: cs) : TakesOn s i := by
  have haccept : s.step (.accept i .accept) = some (s.setAcceptor i { a with stage := .holding c, backlog := cs }) :=
    step_accept ha (by simp [Acceptor.step, hst, hwait])
  obtain ⟨s₁, a₁, id, hnumber, ha₁, hst₁⟩ := exists_numbered
    (s := s.setAcceptor i { a with stage := .holding c, backlog := cs }) (getElem?_set_of_getElem? ha _) rfl
  obtain ⟨s₂, a₂, henter, ha₂, hst₂, hentry⟩ := exists_entered ha₁ hst₁
  refine ⟨[], s₂, c, id, ?_, ?_, hentry⟩
  · simp [run, haccept, hnumber, henter]
  · rw [ha₂, Option.map_some, hst₂]

/-- If nobody waits there, somebody may come. -/
theorem takesOn_of_listening (ha : s.acceptors[i]? = some a) (hst : a.stage = .listening) : TakesOn s i := by
  cases hwait : a.backlog with
  | cons c cs => exact takesOn_of_waiting ha hst hwait
  | nil =>
    have hconnect : s.step (.outside (.connect i ⟨"127.0.0.1", 40000⟩)) =
        some { s.setAcceptor i { a with
          backlog := a.backlog ++ [⟨s.clientStreams.length, ⟨"127.0.0.1", 40000⟩⟩] } with
          clientStreams := s.clientStreams ++ [[]] } := by
      simp [step, outside, ha, Acceptor.isOpen, hst]
    refine TakesOn.of_step ?_ hconnect
    exact takesOn_of_waiting (getElem?_set_of_getElem? ha _) hst (by rw [hwait]; rfl)

/-- A permit is free, or none is needed. -/
theorem takesOn_of_takePermit (ha : s.acceptors[i]? = some a) (hst : a.stage = .ready)
    (hfree : a.cap = none ∨ 0 < a.free) : TakesOn s i := by
  obtain ⟨a', htake, hst'⟩ : ∃ a', a.takePermit = some a' ∧ a'.stage = .listening := by
    unfold Acceptor.takePermit
    split
    · exact ⟨_, rfl, rfl⟩
    · rename_i hcap hnone
      rw [hcap, hnone] at hfree
      simp at hfree
    · exact ⟨_, rfl, rfl⟩
  have hstep : a.step s.isStopping .takePermit = some a' := by simpa [Acceptor.step, hst] using htake
  refine TakesOn.of_step ?_ (step_accept ha hstep)
  exact takesOn_of_listening (getElem?_set_of_getElem? ha a') hst'

/-- If no permit is free, one may come back. -/
theorem takesOn_of_ready (hadmits : Acceptor.Admits limits.maxConnections)
    (h : (forRules rules limits).run ms = some s) (ha : s.acceptors[i]? = some a) (hst : a.stage = .ready) :
    TakesOn s i := by
  cases hcap : a.cap with
  | none => exact takesOn_of_takePermit ha hst (Or.inl hcap)
  | some n =>
    rcases Nat.eq_zero_or_pos a.free with hnone | hfree
    · -- then all of them are lent
      obtain ⟨hsound, hsum⟩ := balanced_of_run h i a ha
      have hpositive : 0 < n := by
        rw [(placed_of_run h).cap ha, limits_of_run h] at hcap
        exact (hadmits n hcap).1
      have hlent : s.lent i = n := by
        have hpermit := hsound.permit
        simp only [hst, Acceptor.Stage.hasPermit, Bool.and_false] at hpermit
        simpa [Acceptor.made, hst, hcap, hnone, hpermit] using hsum
      obtain ⟨more, s', a', hr, ha', hst', hfree⟩ := exists_permit_back h ha (by omega)
      exact (takesOn_of_takePermit ha' (hst'.trans hst) (Or.inr hfree)).of_run hr
    · exact takesOn_of_takePermit ha hst (Or.inr hfree)

/-- A client on its way to the roster comes one step further, and after the last the acceptor is ready again. -/
theorem acceptor_of_enrol (ha : s.acceptors[i]? = some a) (h : s.enrol i = some s') :
    ∃ a', s'.acceptors[i]? = some a' ∧ a'.toGo < a.toGo ∧ (a'.isEnrolling = true ∨ a'.stage = .ready) := by
  obtain ⟨b, hb, h⟩ := Option.bind_eq_some_iff.1 h
  obtain rfl := Option.some.inj (ha.symm.trans hb)
  split at h
  case h_6 => cases h
  all_goals
    rename_i hst
    obtain rfl := Option.some.inj h
    refine ⟨_, getElem?_set_of_getElem? ha _, ?_, ?_⟩
    · simp only [Acceptor.toGo, hst]
      exact Nat.lt_succ_self _
    · first | exact Or.inl rfl | exact Or.inr rfl

theorem takesOn_of_enrolling (hadmits : Acceptor.Admits limits.maxConnections) {n : Nat} :
    ∀ {ms : List Move} {s : Service} {a : Acceptor}, (forRules rules limits).run ms = some s →
      s.acceptors[i]? = some a → a.isEnrolling = true → a.toGo < n → TakesOn s i := by
  induction n with
  | zero => exact fun _ _ _ hn => absurd hn (Nat.not_lt_zero _)
  | succ n ih =>
    intro ms s a h ha he hn
    obtain ⟨s', hs⟩ := exists_enrol ha he
    obtain ⟨a', ha', hless, he' | hready⟩ := acceptor_of_enrol ha hs
    · exact (ih (run_snoc (m := .enrol i) h hs) ha' he' (by omega)).of_step (m := .enrol i) hs
    · exact (takesOn_of_ready hadmits (run_snoc (m := .enrol i) h hs) ha' hready).of_step (m := .enrol i) hs

/-- Wherever an acceptor is that has not ended. -/
theorem takesOn_of_isOpen (hadmits : Acceptor.Admits limits.maxConnections)
    (h : (forRules rules limits).run ms = some s) (ha : s.acceptors[i]? = some a) (hopen : a.isOpen = true) :
    TakesOn s i := by
  cases he : a.isEnrolling with
  | true => exact takesOn_of_enrolling hadmits h ha he (Nat.lt_succ_self _)
  | false =>
    cases hst : a.stage with
    | starting =>
      have hs := step_start ha hst
      have hready := Acceptor.start_stage (fits_of_run hadmits.fits h a (List.mem_of_getElem? ha))
      exact (takesOn_of_ready hadmits (run_snoc h hs) (getElem?_set_of_getElem? ha _) hready).of_step hs
    | ready => exact takesOn_of_ready hadmits h ha hst
    | listening => exact takesOn_of_listening ha hst
    | resting =>
      have hresume : a.step s.isStopping .resume = some { a.putBack with stage := .ready } := by
        simp [Acceptor.step, hst]
      have hs := step_accept ha hresume
      exact (takesOn_of_ready hadmits (run_snoc h hs) (getElem?_set_of_getElem? ha _) rfl).of_step hs
    | ended => simp [Acceptor.isOpen, hst] at hopen
    | broken => simp [Acceptor.isOpen, hst] at hopen
    | _ => simp [Acceptor.isEnrolling, hst] at he

/-! ### No other client -/

/-- The listener of a rule is closed for good. -/
structure Shut (s : Service) (i : Nat) : Prop where
  late : s.stage.isEarly = false
  closed : ∀ a, s.acceptors[i]? = some a → a.isOpen = false

theorem Shut.elim {P : Prop} (h : Shut s i) (ha : s.acceptors[i]? = some a) (hopen : a.isOpen = true) : P := by
  rw [h.closed a ha] at hopen
  cases hopen

theorem Shut.step (h : Shut s i) (hs : s.step m = some s') : Shut s' i := by
  refine ⟨(listeners_step hs h.late).1, fun a ha => ?_⟩
  -- whoever moves is open, or stays what it is
  have hset : ∀ {j : Nat} {b b' : Acceptor}, (s.acceptors.set j b')[i]? = some a → s.acceptors[j]? = some b →
      b.isOpen = true ∨ b'.isOpen = b.isOpen → a.isOpen = false := by
    intro j b b' hat hb hmoves
    rcases getElem?_set_eq_some hat with ⟨rfl, rfl⟩ | ⟨-, hold⟩
    · rcases hmoves with hopen | hsame
      · exact h.elim hb hopen
      · exact hsame.trans (h.closed b hb)
    · exact h.closed a hold
  cases effect_of_step hs with
  | aside hm hsame => exact h.closed a (hsame.acceptors ▸ ha)
  | bound system ls hst hls =>
    have hlate := h.late
    rw [hst] at hlate
    cases hlate
  | connect j b peer hb hopen => exact hset ha hb (Or.inl hopen)
  | accept j b b' am hb hsteps => exact hset ha hb (Or.inl hsteps.isOpen)
  | number j b c hb hst => exact hset ha hb (Or.inl (by simp [Acceptor.isOpen, hst]))
  | enter j b c id hb hst => exact hset ha hb (Or.inl (by simp [Acceptor.isOpen, hst]))
  | count j b c id hb hst => exact hset ha hb (Or.inl (by simp [Acceptor.isOpen, hst]))
  | spawn j b c id hb hst => exact hset ha hb (Or.inl (by simp [Acceptor.isOpen, hst]))
  | note j b id task hb hst => exact hset ha hb (Or.inl (by simp [Acceptor.isOpen, hst]))
  | returnPermit t c b hc hb => exact hset ha hb (Or.inr rfl)
  | _ => exact h.closed a ha

/-- Its acceptor does nothing any more. -/
theorem Shut.silent (h : Shut s i) (hs : s.step m = some s') : m ≠ .accept i .accept ∧ m ≠ .enrol i := by
  refine ⟨?_, ?_⟩
  · rintro rfl
    obtain ⟨a, ha, hs⟩ := Option.bind_eq_some_iff.1 hs
    obtain ⟨a', hstep, -⟩ := Option.bind_eq_some_iff.1 hs
    exact h.elim ha (isOpen_of_step hstep)
  · rintro rfl
    cases effect_of_step hs with
    | aside hm => cases hm
    | number j b c hb hst => exact h.elim hb (by simp [Acceptor.isOpen, hst])
    | enter j b c id hb hst => exact h.elim hb (by simp [Acceptor.isOpen, hst])
    | count j b c id hb hst => exact h.elim hb (by simp [Acceptor.isOpen, hst])
    | spawn j b c id hb hst => exact h.elim hb (by simp [Acceptor.isOpen, hst])
    | note j b id task hb hst => exact h.elim hb (by simp [Acceptor.isOpen, hst])

theorem Shut.silent_run : ∀ {more : List Move} {s s' : Service}, Shut s i → s.run more = some s' →
    .accept i .accept ∉ more ∧ .enrol i ∉ more
  | [], _, _, _, _ => ⟨List.not_mem_nil, List.not_mem_nil⟩
  | m :: more, s, s', h, hr => by
    obtain ⟨s₁, hs, hr⟩ := Option.bind_eq_some_iff.1 hr
    obtain ⟨haccept, henrol⟩ := h.silent hs
    obtain ⟨haccepts, henrols⟩ := (h.step hs).silent_run hr
    exact ⟨List.not_mem_cons_of_ne_of_not_mem haccept.symm haccepts,
      List.not_mem_cons_of_ne_of_not_mem henrol.symm henrols⟩

/-- No client is taken from a listener any more, and none is put on the roster. -/
def AcceptingOver (s : Service) : Prop :=
  ∀ more s', s.run more = some s' → ∀ i, .accept i .accept ∉ more ∧ .enrol i ∉ more

theorem acceptingOver_of_closed (hlate : s.stage.isEarly = false) (hclosed : ∀ a ∈ s.acceptors, a.isOpen = false) :
    AcceptingOver s := by
  intro more s' hr i
  have hshut : Shut s i := ⟨hlate, fun a ha => hclosed a (List.mem_of_getElem? ha)⟩
  exact hshut.silent_run hr

theorem TakesOn.not_acceptingOver (h : TakesOn s i) : ¬ AcceptingOver s := by
  intro hover
  obtain ⟨more, s', -, -, hr, -⟩ := h
  exact (hover _ s' hr i).1 (List.mem_append_right _ List.mem_cons_self)

/-! ### Ending without another client -/

/-- Taking a client from a listener leaves more to do. -/
theorem ne_accept_of_toGo (hs : s.step m = some s') (ha : s.acceptors[i]? = some a)
    (hacc : s'.acceptors = s.acceptors.set i a') (hless : a'.toGo < a.toGo) (j : Nat) : m ≠ .accept j .accept := by
  rintro rfl
  cases effect_of_step hs with
  | aside hm => cases hm
  | accept j b b' am hb hsteps =>
    cases hsteps with
    | accept c cs hst hwait =>
      have hat := getElem?_set_of_getElem? hb { b with stage := .holding c, backlog := cs }
      have hat' : (s.acceptors.set i a')[j]? = some { b with stage := .holding c, backlog := cs } := by
        rw [← hacc]
        exact hat
      rcases getElem?_set_eq_some hat' with ⟨rfl, rfl⟩ | ⟨-, hold⟩
      · obtain rfl := Option.some.inj (ha.symm.trans hb)
        simp [Acceptor.toGo, hst, Acceptor.Stage.toGo] at hless
      · have hsame := congrArg Acceptor.stage (Option.some.inj (hb.symm.trans hold))
        rw [hst] at hsame
        cases hsame

/-- Without anything from outside, all acceptors end, and none of them takes another client. -/
def EndsQuietly (s : Service) : Prop :=
  ∃ more s', (∀ m ∈ more, ∀ o, m ≠ .outside o) ∧ (∀ i, .accept i .accept ∉ more) ∧ s.run more = some s' ∧
    ∀ a ∈ s'.acceptors, a.isOpen = false

theorem EndsQuietly.cons (h : EndsQuietly s') (hs : s.step m = some s') (hm : ∀ o, m ≠ .outside o)
    (hquiet : ∀ i, m ≠ .accept i .accept) : EndsQuietly s := by
  obtain ⟨more, s'', hmore, haccepts, hr, hclosed⟩ := h
  refine ⟨m :: more, s'', ?_, fun i => ?_, ?_, hclosed⟩
  · intro x hx
    rcases List.mem_cons.1 hx with rfl | hx
    · exact hm
    · exact hmore x hx
  · exact List.not_mem_cons_of_ne_of_not_mem (hquiet i).symm (haccepts i)
  · rw [run, hs]
    exact hr

theorem endsQuietly_of_isStopping {n : Nat} : ∀ {s : Service}, s.isStopping = true →
    Acceptor.allToGo s.acceptors < n → EndsQuietly s := by
  induction n with
  | zero => exact fun _ hn => absurd hn (Nat.not_lt_zero _)
  | succ n ih =>
    intro s hstop hn
    cases hany : s.acceptors.any Acceptor.isOpen with
    | false => exact ⟨[], s, nofun, fun _ => List.not_mem_nil, rfl, by simpa using hany⟩
    | true =>
      obtain ⟨a, ha, hopen⟩ := List.any_eq_true.1 hany
      obtain ⟨i, hi⟩ := List.getElem?_of_mem ha
      obtain ⟨m, s', a', hm, hs, -, hacc, hless⟩ := exists_acceptor_step hi hopen hstop
      have hsum := Acceptor.allToGo_set_lt hless hi
      exact (ih (isStopping_of_step hs hstop) (by rw [hacc]; omega)).cons hs hm (ne_accept_of_toGo hs hi hacc hless)

/-! ### The request -/

theorem stopping_of_mem (h : (forRules rules limits).run ms = some s) (hm : .stop .stopAccepting ∈ ms) :
    s.isStopping = true ∧ s.stage.isEarly = false := by
  revert hm
  refine run_induction (P := fun ms s => .stop .stopAccepting ∈ ms → s.isStopping = true ∧ s.stage.isEarly = false)
    ?_ ?_ h
  · exact fun hm => absurd hm List.not_mem_nil
  · intro ms m s s' _ ih hs hm
    rcases List.mem_append.1 hm with hm | hm
    · exact ⟨isStopping_of_step hs (ih hm).1, (listeners_step hs (ih hm).2).1⟩
    · obtain rfl := List.mem_singleton.1 hm
      cases stops_of_stop hs with
      | stopAccepting lost hst => exact ⟨rfl, rfl⟩

/-- What is so of those who accept once they have been told to stop. -/
structure Lingering (ms : List Move) (s : Service) : Prop where
  /-- Wherever an acceptor is, it may take one more client exactly if it has not ended. -/
  takesOn_iff : ∀ i a, s.acceptors[i]? = some a → (TakesOn s i ↔ a.isOpen = true)
  /-- It need not. -/
  endsQuietly : EndsQuietly s
  /-- Only when all have ended nobody is taken any more. -/
  over_iff : AcceptingOver s ↔ ∀ a ∈ s.acceptors, a.isOpen = false
  joined : .stop .join ∈ ms → AcceptingOver s

/-- **An acceptor may take one more client until it has ended**, and not only until it is told to stop. -/
theorem lingering (rules : List Rule) (limits : Limits) (ms : List Move) (s : Service)
    (hadmits : Acceptor.Admits limits.maxConnections) (h : (forRules rules limits).run ms = some s)
    (hstop : .stop .stopAccepting ∈ ms) : Lingering ms s := by
  obtain ⟨hstopping, hlate⟩ := stopping_of_mem h hstop
  refine ⟨fun i a ha => ⟨fun htakes => ?_, takesOn_of_isOpen hadmits h ha⟩,
    endsQuietly_of_isStopping hstopping (Nat.lt_succ_self _), ⟨fun hover a ha => ?_, acceptingOver_of_closed hlate⟩,
    fun hjoin => ?_⟩
  · by_contra hclosed
    have hshut : Shut s i := by
      refine ⟨hlate, fun b hb => ?_⟩
      obtain rfl := Option.some.inj (ha.symm.trans hb)
      simpa using hclosed
    obtain ⟨more, s', -, -, hr, -⟩ := htakes
    exact (hshut.silent_run hr).1 (List.mem_append_right _ List.mem_cons_self)
  · by_contra hopen
    obtain ⟨i, hi⟩ := List.getElem?_of_mem ha
    exact (takesOn_of_isOpen hadmits h hi (by simpa using hopen)).not_acceptingOver hover
  · exact acceptingOver_of_closed hlate ((lawful_of_run h).closed_of_isJoined (isJoined_of_mem h hjoin))

/-- A client is connected when the service is told to stop; its acceptor is about to take a permit. -/
def toldWhileReady : List Move :=
  [.start .authenticate, .start (.established (.ok ())), .start (.bind (Listener.onHost [])), .start .announce,
    .accept 0 .start, .outside (.connect 0 ⟨"127.0.0.1", 40000⟩), .outside .askStop, .stop (.drain false),
    .stop .stopAccepting]

theorem lingering_toldWhileReady :
    ∃ s, (forRules [⟨"127.0.0.1", 8080, "db", 5432⟩] { maxConnections := some 1 }).run toldWhileReady = some s ∧
      s.acceptors.map Acceptor.stage = [.ready] ∧ Lingering toldWhileReady s := by
  have hend : ((forRules [⟨"127.0.0.1", 8080, "db", 5432⟩] { maxConnections := some 1 }).run toldWhileReady).map
      (fun s => s.acceptors.map Acceptor.stage) = some [.ready] := by
    decide +kernel
  obtain ⟨s, hs, hready⟩ := Option.map_eq_some_iff.1 hend
  refine ⟨s, hs, hready, lingering _ _ _ s ?_ hs (by simp [toldWhileReady])⟩
  intro n hn
  obtain rfl := Option.some.inj hn
  exact ⟨Nat.one_pos, by decide⟩

/-- With this cap the client is taken on after that. -/
def TakenWhenTold (cap : Option Nat) : Prop :=
  ∃ s s', (forRules [⟨"127.0.0.1", 8080, "db", 5432⟩] { maxConnections := cap }).run toldWhileReady = some s ∧
    s.stopping = true ∧ s.roster.active = 0 ∧
    s.run [.accept 0 .takePermit, .accept 0 .accept, .enrol 0, .enrol 0] = some s' ∧ s'.roster.active = 1

theorem takenWhenTold_of_shown {cap : Option Nat}
    (h : ((forRules [⟨"127.0.0.1", 8080, "db", 5432⟩] { maxConnections := cap }).run toldWhileReady).bind
      (fun s => (s.run [.accept 0 .takePermit, .accept 0 .accept, .enrol 0, .enrol 0]).map
        fun s' => (s.stopping, s.roster.active, s'.roster.active)) = some (true, 0, 1)) : TakenWhenTold cap := by
  obtain ⟨s, hs, hnext⟩ := Option.bind_eq_some_iff.1 h
  obtain ⟨s', hs', hshown⟩ := Option.map_eq_some_iff.1 hnext
  obtain ⟨hstopping, hrest⟩ := Prod.mk.inj hshown
  obtain ⟨hbefore, hafter⟩ := Prod.mk.inj hrest
  exact ⟨s, s', hs, hstopping, hbefore, hs', hafter⟩

/-- So it is without a cap, and where there is one permit. -/
theorem accepted_when_told : TakenWhenTold none ∧ TakenWhenTold (some 1) :=
  ⟨takenWhenTold_of_shown (by decide +kernel), takenWhenTold_of_shown (by decide +kernel)⟩

end Service

end SshTunnel

import SshTunnel.Proofs.Service.LifeCycle

/-!
A service that does not run any more comes to its end.  As long as it has not, either the supervisor can go on,
or it waits for an acceptor, and that can; and each of these moves leaves less to do.
-/

namespace SshTunnel

/-! ### What is left to do -/

/-- How many moves the supervisor has left at most. -/
def Drain.toGo : Drain → Nat
  | .announced => 10
  | .joining => 9
  | .waiting => 8
  | .overdue => 7
  | .forced => 6
  | .stuck => 5
  | .aborted => 4
  | .parting => 3
  | .closed => 2
  | .stopped => 1

/-- How many moves an acceptor has left at most that was told to stop. -/
def Acceptor.Stage.toGo : Acceptor.Stage → Nat
  | .holding _ => 7
  | .numbered .. => 6
  | .entered .. => 5
  | .counted .. => 4
  | .spawned .. => 3
  | .starting => 3
  | .ready => 2
  | .listening => 1
  | .resting => 1
  | .ended => 0
  | .broken => 0

def Acceptor.toGo (a : Acceptor) : Nat := a.stage.toGo

def Acceptor.allToGo : List Acceptor → Nat
  | [] => 0
  | a :: as => a.toGo + allToGo as

/-- A client is on its way to the roster. -/
def Acceptor.isEnrolling (a : Acceptor) : Bool :=
  match a.stage with
  | .holding _ | .numbered .. | .entered .. | .counted .. | .spawned .. => true
  | _ => false

/-! ### Acceptors -/

theorem Acceptor.toGo_start (a : Acceptor) : a.start.toGo ≤ 2 := by
  unfold start
  split
  · exact Nat.le_refl 2
  · split
    · exact Nat.zero_le 2
    · exact Nat.le_refl 2

theorem Acceptor.exists_step {a : Acceptor} (hopen : a.isOpen = true) (hfree : a.isEnrolling = false) :
    ∃ m a', a.step true m = some a' ∧ a'.toGo < a.toGo := by
  -- told to stop, an acceptor starts, takes its permit or quits; what is to go counts these three
  cases hst : a.stage with
  | starting =>
    have hgo : a.toGo = 3 := congrArg Stage.toGo hst
    have hstart := a.toGo_start
    exact ⟨.start, a.start, by simp [step, hst], by omega⟩
  | ready =>
    have hgo : a.toGo = 2 := congrArg Stage.toGo hst
    cases hcap : a.cap with
    | none =>
      have hnext : ({ a with stage := .listening } : Acceptor).toGo = 1 := rfl
      exact ⟨.takePermit, { a with stage := .listening }, by simp [step, takePermit, hst, hcap], by omega⟩
    | some n =>
      have hnext : a.stop.toGo = 0 := rfl
      exact ⟨.quit, a.stop, by simp [step, hst, hcap], by omega⟩
  | listening =>
    have hgo : a.toGo = 1 := congrArg Stage.toGo hst
    have hnext : a.stop.toGo = 0 := rfl
    exact ⟨.quit, a.stop, by simp [step, hst], by omega⟩
  | resting =>
    have hgo : a.toGo = 1 := congrArg Stage.toGo hst
    have hnext : a.stop.toGo = 0 := rfl
    exact ⟨.quit, a.stop, by simp [step, hst], by omega⟩
  | ended => simp [isOpen, hst] at hopen
  | broken => simp [isOpen, hst] at hopen
  | _ => simp [isEnrolling, hst] at hfree

theorem Acceptor.allToGo_set_lt {a a' : Acceptor} (hless : a'.toGo < a.toGo) :
    ∀ {l : List Acceptor} {i : Nat}, l[i]? = some a → allToGo (l.set i a') < allToGo l
  | [], i, h => by simp at h
  | b :: l, 0, h => by
    obtain rfl : b = a := by simpa using h
    simp only [List.set_cons_zero, allToGo]
    omega
  | b :: l, i + 1, h => by
    have := allToGo_set_lt hless (l := l) (i := i) (by simpa using h)
    simp only [List.set_cons_succ, allToGo]
    omega

namespace Service

variable {s s' : Service}

theorem exists_enrol {i : Nat} {a : Acceptor} (ha : s.acceptors[i]? = some a) (he : a.isEnrolling = true) :
    ∃ s', s.enrol i = some s' := by
  unfold enrol
  rw [ha]
  unfold Acceptor.isEnrolling at he
  split at he
  case h_6 => cases he
  all_goals
    rename_i hst
    simp only [Option.bind_eq_bind, Option.bind_some, hst]
    exact ⟨_, rfl⟩

theorem toGo_enrol {i : Nat} {a : Acceptor} (ha : s.acceptors[i]? = some a) (h : s.enrol i = some s') :
    s'.stage = s.stage ∧ ∃ a', s'.acceptors = s.acceptors.set i a' ∧ a'.toGo < a.toGo := by
  obtain ⟨b, hb, h⟩ := Option.bind_eq_some_iff.1 h
  obtain rfl := Option.some.inj (ha.symm.trans hb)
  split at h
  case h_6 => cases h
  all_goals
    rename_i hst
    obtain rfl := Option.some.inj h
    refine ⟨rfl, _, rfl, ?_⟩
    simp only [Acceptor.toGo, hst]
    exact Nat.lt_succ_self _

/-- An acceptor that was told to stop can always go on to its end. -/
theorem exists_acceptor_step {i : Nat} {a : Acceptor} (ha : s.acceptors[i]? = some a) (hopen : a.isOpen = true)
    (hstop : s.isStopping = true) :
    ∃ m s' a', (∀ o, m ≠ .outside o) ∧ s.step m = some s' ∧ s'.stage = s.stage ∧
      s'.acceptors = s.acceptors.set i a' ∧ a'.toGo < a.toGo := by
  cases he : a.isEnrolling with
  | true =>
    obtain ⟨s', hs⟩ := exists_enrol ha he
    obtain ⟨hstage, a', hacc, hless⟩ := toGo_enrol ha hs
    exact ⟨.enrol i, s', a', by simp, hs, hstage, hacc, hless⟩
  | false =>
    obtain ⟨am, a', hstep, hless⟩ := a.exists_step hopen he
    refine ⟨.accept i am, s.setAcceptor i a', a', by simp, ?_, rfl, rfl, hless⟩
    simp [step, accept, ha, hstop, hstep]

/-! ### The supervisor -/

/-- How much is left to do until the service is over. -/
def toGo (s : Service) (d : Drain) : Nat := d.toGo + Acceptor.allToGo s.acceptors

/-- A move after which less is left to do. -/
def CanGoOn (s : Service) (lost : Bool) (d : Drain) : Prop :=
  ∃ m s', (∀ o, m ≠ .outside o) ∧ s.step m = some s' ∧
    (s'.stage = .finished lost ∨ ∃ d', s'.stage = .draining lost d' ∧ s'.toGo d' < s.toGo d)

/-- A move of the supervisor leaves the acceptors alone. -/
theorem canGoOn_of_drain {lost : Bool} {d d' : Drain} {x : StopMove} (hs : s.stage = .draining lost d)
    (hx : s.drain lost d x = some s') (hacc : s'.acceptors = s.acceptors) (hst : s'.stage = .draining lost d')
    (hless : d'.toGo < d.toGo) : CanGoOn s lost d := by
  refine ⟨.stop x, s', by simp, ?_, Or.inr ⟨d', hst, ?_⟩⟩
  · simp [step, stop, hs, hx]
  · unfold toGo
    rw [hacc]
    omega

/-- A wait ends, one way or the other. -/
theorem canGoOn_of_wait {lost : Bool} {d next : Drain} (hs : s.stage = .draining lost d)
    (hidle : s.drain lost d .idle = s.goOn true lost .parting)
    (hbusy : s.drain lost d .overdue = s.goOn false lost next)
    (hless : Drain.parting.toGo < d.toGo ∧ next.toGo < d.toGo) : CanGoOn s lost d := by
  cases he : s.roster.entries.isEmpty with
  | true =>
    have hx : s.drain lost d .idle = some { s with stage := .draining lost .parting } := by
      rw [hidle, goOn, if_pos he]
    exact canGoOn_of_drain hs hx rfl rfl hless.1
  | false =>
    have hx : s.drain lost d .overdue = some { s with stage := .draining lost next } := by
      rw [hbusy, goOn, if_pos he]
    exact canGoOn_of_drain hs hx rfl rfl hless.2

theorem Lawful.canGoOn {lost : Bool} {d : Drain} (h : Lawful s) (hs : s.stage = .draining lost d) :
    CanGoOn s lost d := by
  cases d with
  | announced => exact canGoOn_of_drain (x := .stopAccepting) hs rfl rfl rfl (by decide)
  | joining =>
    cases hany : s.acceptors.any Acceptor.isOpen with
    | false =>
      have hx : s.drain lost .joining .join = some { s with stage := .draining lost .waiting } := by
        simp [drain, hany]
      exact canGoOn_of_drain hs hx rfl rfl (by decide)
    | true =>
      obtain ⟨a, ha, hopen⟩ := List.any_eq_true.1 hany
      obtain ⟨i, hi⟩ := List.getElem?_of_mem ha
      have hstop : s.isStopping = true := by
        simp [isStopping, h.told (by rw [hs]; rfl)]
      obtain ⟨m, s', a', hm, hstep, hstage, hacc, hless⟩ := exists_acceptor_step hi hopen hstop
      refine ⟨m, s', hm, hstep, Or.inr ⟨.joining, hstage.trans hs, ?_⟩⟩
      have := Acceptor.allToGo_set_lt hless hi
      unfold toGo
      rw [hacc]
      omega
  | waiting => exact canGoOn_of_wait hs rfl rfl (by decide)
  | overdue => exact canGoOn_of_drain (x := .force) hs rfl rfl rfl (by decide)
  | forced => exact canGoOn_of_wait hs rfl rfl (by decide)
  | stuck => exact canGoOn_of_drain (x := .abort) hs rfl rfl rfl (by decide)
  | aborted => exact canGoOn_of_wait hs rfl rfl (by decide)
  | parting => exact canGoOn_of_drain (x := .closeSession) hs rfl rfl rfl (by decide)
  | closed => exact canGoOn_of_drain (x := .announce) hs rfl rfl rfl (by decide)
  | stopped =>
    refine ⟨.stop .leave, { s with stage := .finished lost }, by simp, ?_, Or.inl rfl⟩
    simp [Service.step, Service.stop, hs, drain]

/-- **A service that does not run any more can always come to its end**, without anything from outside. -/
theorem Lawful.finishes {lost : Bool} (h : Lawful s) (hs : s.stage.lost? = some lost) :
    ∃ ms s', (∀ m ∈ ms, ∀ o, m ≠ .outside o) ∧ s.run ms = some s' ∧ s'.stage = .finished lost := by
  -- on a bound of what is left to go, for all services, since each step leads to another one
  suffices hall : ∀ n s d, Lawful s → s.stage = .draining lost d → s.toGo d < n →
      ∃ ms s', (∀ m ∈ ms, ∀ o, m ≠ .outside o) ∧ s.run ms = some s' ∧ s'.stage = .finished lost by
    cases hst : s.stage with
    | draining l d =>
      rw [hst] at hs
      obtain rfl := Option.some.inj hs
      exact hall _ s d h hst (Nat.lt_succ_self _)
    | finished l =>
      rw [hst] at hs
      obtain rfl := Option.some.inj hs
      exact ⟨[], s, fun _ hm => absurd hm List.not_mem_nil, rfl, hst⟩
    | _ =>
      rw [hst] at hs
      cases hs
  intro n
  induction n with
  | zero =>
    intro s d _ _ hn
    exact absurd hn (Nat.not_lt_zero _)
  | succ n ih =>
    intro s d h hst hn
    obtain ⟨m, s₁, hm, hstep, hend⟩ := h.canGoOn hst
    have hrun : ∀ ms, s.run (m :: ms) = s₁.run ms := fun ms => by
      simp [run, hstep]
    rcases hend with hend | ⟨d', hst', hless⟩
    · exact ⟨[m], s₁, by simpa using hm, by rw [hrun, run], hend⟩
    · obtain ⟨ms, s', hms, hr, hend⟩ := ih s₁ d' (h.step hstep) hst' (by omega)
      refine ⟨m :: ms, s', ?_, by rw [hrun, hr], hend⟩
      intro m' hm'
      rcases List.mem_cons.1 hm' with rfl | hm'
      · exact hm
      · exact hms m' hm'

end Service

end SshTunnel

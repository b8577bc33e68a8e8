import Mathlib.Tactic.Common
import SshTunnel.Service.Basic

/-!
What a move of a service can be.  The moves of starting and of the supervisor change the stage, one after the
other; all others leave it, and what is published, as it is.
-/

namespace SshTunnel.Service

variable {s s' : Service}

/-! ### Starting -/

/-- The moves of starting, and what they come to. -/
inductive Starts (s : Service) : StartMove → Service → Prop
  | authenticate (h : s.stage = .idle) :
      Starts s .authenticate ({ s with stage := .authenticating }.publish .authenticating)
  | opened (h : s.stage = .authenticating) :
      Starts s (.established (.ok ())) { s with stage := .binding, hasSession := true }
  | refused (f : Failure) (h : s.stage = .authenticating) :
      Starts s (.established (.error f)) ({ s with stage := .failed f }.publish .stopped)
  | unbound (system : Listener.System) (f : Failure) (h : s.stage = .binding)
      (hf : (Listener.bindAll system ⟨s.rules⟩).result = .error f) :
      Starts s (.bind system) { s with stage := .unbound f }
  | bound (system : Listener.System) (ls : List Listener) (h : s.stage = .binding)
      (hls : (Listener.bindAll system ⟨s.rules⟩).result = .ok ls) :
      Starts s (.bind system) { s with stage := .launching, listeners := ls,
                                       acceptors := ls.map fun _ => { cap := s.limits.maxConnections } }
  | close (f : Failure) (h : s.stage = .unbound f) :
      Starts s .closeSession { s with stage := .leaving f, closings := s.closings + 1, sessionClosed := true }
  | giveUp (f : Failure) (h : s.stage = .leaving f) :
      Starts s .giveUp ({ s with stage := .failed f }.publish .stopped)
  | announce (h : s.stage = .launching) : Starts s .announce ({ s with stage := .running }.publish .running)

theorem starts_of_start {m : StartMove} (h : s.start m = some s') : Starts s m s' := by
  unfold start at h
  split at h
  · rename_i hs
    obtain rfl := Option.some.inj h
    exact .authenticate hs
  · rename_i hs
    obtain rfl := Option.some.inj h
    exact .opened hs
  · rename_i f hs
    obtain rfl := Option.some.inj h
    exact .refused f hs
  · rename_i system hs
    split at h
    · rename_i f hf
      obtain rfl := Option.some.inj h
      exact .unbound system f hs hf
    · rename_i ls hls
      obtain rfl := Option.some.inj h
      exact .bound system ls hs hls
  · rename_i f hs
    obtain rfl := Option.some.inj h
    exact .close f hs
  · rename_i f hs
    obtain rfl := Option.some.inj h
    exact .giveUp f hs
  · rename_i hs
    obtain rfl := Option.some.inj h
    exact .announce hs
  · cases h

/-! ### Stopping -/

/-- Where a wait that ends with somebody on the roster leads to. -/
def afterWait? : Drain → Option Drain
  | .waiting => some .overdue
  | .forced => some .stuck
  | .aborted => some .parting
  | _ => none

/-- The moves of the supervisor, and what they come to. -/
inductive Stops (s : Service) : StopMove → Service → Prop
  | drain (lost : Bool) (h : s.stage = .running)
      (hlost : lost = true ∧ s.sessionClosed = true ∨ lost = false ∧ s.stopAsked = true) :
      Stops s (.drain lost) ({ s with stage := .draining lost .announced }.publish .draining)
  | stopAccepting (lost : Bool) (h : s.stage = .draining lost .announced) :
      Stops s .stopAccepting { s with stage := .draining lost .joining, stopping := true }
  | join (lost : Bool) (h : s.stage = .draining lost .joining) (hclosed : ∀ a ∈ s.acceptors, a.isOpen = false) :
      Stops s .join { s with stage := .draining lost .waiting }
  | idle (lost : Bool) (d next : Drain) (h : s.stage = .draining lost d) (hd : afterWait? d = some next)
      (hidle : s.roster.entries = []) : Stops s .idle { s with stage := .draining lost .parting }
  | overdue (lost : Bool) (d next : Drain) (h : s.stage = .draining lost d) (hd : afterWait? d = some next)
      (hbusy : s.roster.entries ≠ []) : Stops s .overdue { s with stage := .draining lost next }
  | force (lost : Bool) (h : s.stage = .draining lost .overdue) :
      Stops s .force { s with stage := .draining lost .forced, forcing := true }
  | abort (lost : Bool) (h : s.stage = .draining lost .stuck) :
      Stops s .abort { s.abortAll with stage := .draining lost .aborted }
  | close (lost : Bool) (h : s.stage = .draining lost .parting) :
      Stops s .closeSession { s with stage := .draining lost .closed, closings := s.closings + 1,
                                     sessionClosed := true }
  | announce (lost : Bool) (h : s.stage = .draining lost .closed) :
      Stops s .announce ({ s with stage := .draining lost .stopped }.publish .stopped)
  | leave (lost : Bool) (h : s.stage = .draining lost .stopped) : Stops s .leave { s with stage := .finished lost }

theorem goOn_eq_some {idle lost : Bool} {next : Drain} (h : s.goOn idle lost next = some s') :
    s.roster.entries.isEmpty = idle ∧ s' = { s with stage := .draining lost next } := by
  unfold goOn at h
  split at h
  · rename_i hidle
    exact ⟨hidle, (Option.some.inj h).symm⟩
  · cases h

theorem stops_of_drain {lost : Bool} {d : Drain} {m : StopMove} (hs : s.stage = .draining lost d)
    (h : s.drain lost d m = some s') : Stops s m s' := by
  have hidle : ∀ {next next'}, afterWait? d = some next' → s.goOn true lost next = some s' → next = .parting →
      Stops s .idle s' := by
    rintro _ next' hd hg rfl
    obtain ⟨hempty, rfl⟩ := goOn_eq_some hg
    exact .idle lost d next' hs hd (List.isEmpty_iff.1 hempty)
  have hoverdue : ∀ {next}, afterWait? d = some next → s.goOn false lost next = some s' → Stops s .overdue s' := by
    intro next hd hg
    obtain ⟨hempty, rfl⟩ := goOn_eq_some hg
    exact .overdue lost d next hs hd (List.isEmpty_eq_false_iff.1 hempty)
  unfold drain at h
  split at h
  · obtain rfl := Option.some.inj h
    exact .stopAccepting lost hs
  · split at h
    · cases h
    · rename_i hopen
      obtain rfl := Option.some.inj h
      refine .join lost hs fun a ha => ?_
      by_contra hne
      exact hopen (List.any_eq_true.2 ⟨a, ha, by simpa using hne⟩)
  · exact hidle rfl h rfl
  · exact hoverdue rfl h
  · obtain rfl := Option.some.inj h
    exact .force lost hs
  · exact hidle rfl h rfl
  · exact hoverdue rfl h
  · obtain rfl := Option.some.inj h
    exact .abort lost hs
  · exact hidle rfl h rfl
  · exact hoverdue rfl h
  · obtain rfl := Option.some.inj h
    exact .close lost hs
  · obtain rfl := Option.some.inj h
    exact .announce lost hs
  · obtain rfl := Option.some.inj h
    exact .leave lost hs
  · cases h

theorem stops_of_stop {m : StopMove} (h : s.stop m = some s') : Stops s m s' := by
  unfold stop at h
  split at h
  · rename_i lost hs
    split at h
    · rename_i hlost
      obtain rfl := Option.some.inj h
      exact .drain lost hs hlost
    · cases h
  · rename_i lost d hs
    exact stops_of_drain hs h
  · cases h

/-! ### All others -/

/-- What the other moves leave as it is.  Of what is asked of the service from outside only its loss and the
request to stop count. -/
structure Keeps (m : Move) (s s' : Service) : Prop where
  rules : s'.rules = s.rules
  limits : s'.limits = s.limits
  stage : s'.stage = s.stage
  published : s'.published = s.published
  hasSession : s'.hasSession = s.hasSession
  closings : s'.closings = s.closings
  stopping : s'.stopping = s.stopping
  sessionClosed : s'.sessionClosed = true → s.sessionClosed = true ∨ m = .outside .loseSession
  stopAsked : s'.stopAsked = true → s.stopAsked = true ∨ m = .outside .askStop ∨ m = .outside .dropHandle
  /-- No listener is opened again. -/
  closed : (∀ a ∈ s.acceptors, a.isOpen = false) → ∀ a ∈ s'.acceptors, a.isOpen = false

/-- Where one listener is open, not all of them are closed. -/
theorem closed_of_open {i : Nat} {a : Acceptor} {P : Prop} (ha : s.acceptors[i]? = some a)
    (hopen : a.isOpen = true) (h : ∀ a ∈ s.acceptors, a.isOpen = false) : P := by
  rw [h a (List.mem_of_getElem? ha)] at hopen
  cases hopen

theorem isOpen_of_step {stopping : Bool} {a a' : Acceptor} {m : Acceptor.Move} (h : a.step stopping m = some a') :
    a.isOpen = true := by
  unfold Acceptor.step at h
  unfold Acceptor.isOpen
  split at h
  case h_9 => cases h
  all_goals
    rename_i hs
    rw [hs]
    rfl

theorem keeps_outside {o : OutsideMove} (h : s.outside o = some s') : Keeps (.outside o) s s' := by
  cases o with
  | askStop =>
    simp only [outside] at h
    split at h
    · obtain rfl := Option.some.inj h
      exact ⟨rfl, rfl, rfl, rfl, rfl, rfl, rfl, Or.inl, fun _ => Or.inr (Or.inl rfl), id⟩
    · cases h
  | dropHandle =>
    simp only [outside] at h
    split at h
    · obtain rfl := Option.some.inj h
      exact ⟨rfl, rfl, rfl, rfl, rfl, rfl, rfl, Or.inl, fun _ => Or.inr (Or.inr rfl), id⟩
    · cases h
  | loseSession =>
    simp only [outside] at h
    split at h
    · obtain rfl := Option.some.inj h
      exact ⟨rfl, rfl, rfl, rfl, rfl, rfl, rfl, fun _ => Or.inr rfl, Or.inl, id⟩
    · cases h
  | connect rule peer =>
    obtain ⟨a, ha, h⟩ := Option.bind_eq_some_iff.1 h
    split at h
    · rename_i hopen
      obtain rfl := Option.some.inj h
      exact ⟨rfl, rfl, rfl, rfl, rfl, rfl, rfl, Or.inl, Or.inl, closed_of_open ha hopen⟩
    · cases h
  | clientSends n b =>
    obtain rfl := Option.some.inj h
    exact ⟨rfl, rfl, rfl, rfl, rfl, rfl, rfl, Or.inl, Or.inl, id⟩
  | channelSends t b =>
    obtain rfl := Option.some.inj h
    exact ⟨rfl, rfl, rfl, rfl, rfl, rfl, rfl, Or.inl, Or.inl, id⟩

theorem keeps_accept {i : Nat} {am : Acceptor.Move} (h : s.accept i am = some s') : Keeps (.accept i am) s s' := by
  obtain ⟨a, ha, h⟩ := Option.bind_eq_some_iff.1 h
  obtain ⟨a', hstep, h⟩ := Option.bind_eq_some_iff.1 h
  obtain rfl := Option.some.inj h
  exact ⟨rfl, rfl, rfl, rfl, rfl, rfl, rfl, Or.inl, Or.inl, closed_of_open ha (isOpen_of_step hstep)⟩

theorem keeps_enrol {i : Nat} (h : s.enrol i = some s') : Keeps (.enrol i) s s' := by
  obtain ⟨a, ha, h⟩ := Option.bind_eq_some_iff.1 h
  have hopen : a.isOpen = true := by
    unfold Acceptor.isOpen
    split at h
    case h_6 => cases h
    all_goals
      rename_i hs
      rw [hs]
      rfl
  split at h
  case h_6 => cases h
  all_goals
    obtain rfl := Option.some.inj h
    exact ⟨rfl, rfl, rfl, rfl, rfl, rfl, rfl, Or.inl, Or.inl, closed_of_open ha hopen⟩

theorem keeps_work {t : TaskId} {cm : Connection.Move} (h : s.work t cm = some s') : Keeps (.work t cm) s s' := by
  obtain ⟨c, -, h⟩ := Option.bind_eq_some_iff.1 h
  obtain ⟨-, -, h⟩ := Option.bind_eq_some_iff.1 h
  obtain ⟨rule, -, h⟩ := Option.bind_eq_some_iff.1 h
  obtain ⟨c', -, h⟩ := Option.bind_eq_some_iff.1 h
  obtain rfl := Option.some.inj h
  exact ⟨rfl, rfl, rfl, rfl, rfl, rfl, rfl, Or.inl, Or.inl, id⟩

theorem keeps_letGo {t : TaskId} {cm : Connection.Move} (h : s.letGo t cm = some s') : Keeps (.letGo t cm) s s' := by
  obtain ⟨c, -, h⟩ := Option.bind_eq_some_iff.1 h
  obtain ⟨c', -, h⟩ := Option.bind_eq_some_iff.1 h
  split at h
  · obtain rfl := Option.some.inj h
    exact ⟨rfl, rfl, rfl, rfl, rfl, rfl, rfl, Or.inl, Or.inl, id⟩
  · obtain rfl := Option.some.inj h
    exact ⟨rfl, rfl, rfl, rfl, rfl, rfl, rfl, Or.inl, Or.inl, id⟩
  · obtain ⟨a, ha, h⟩ := Option.bind_eq_some_iff.1 h
    obtain rfl := Option.some.inj h
    refine ⟨rfl, rfl, rfl, rfl, rfl, rfl, rfl, Or.inl, Or.inl, fun hclosed b hb => ?_⟩
    rcases List.mem_or_eq_of_mem_set hb with hb | rfl
    · exact hclosed b hb
    · exact hclosed a (List.mem_of_getElem? ha)
  · cases h

theorem step_cases {m : Move} (h : s.step m = some s') :
    (∃ x, m = .start x ∧ Starts s x s') ∨ (∃ x, m = .stop x ∧ Stops s x s') ∨
      (∀ x, m ≠ .start x) ∧ (∀ x, m ≠ .stop x) ∧ Keeps m s s' := by
  cases m with
  | start x => exact Or.inl ⟨x, rfl, starts_of_start h⟩
  | stop x => exact Or.inr (Or.inl ⟨x, rfl, stops_of_stop h⟩)
  | outside o => exact Or.inr (Or.inr ⟨by simp, by simp, keeps_outside h⟩)
  | accept i am => exact Or.inr (Or.inr ⟨by simp, by simp, keeps_accept h⟩)
  | enrol i => exact Or.inr (Or.inr ⟨by simp, by simp, keeps_enrol h⟩)
  | work t cm => exact Or.inr (Or.inr ⟨by simp, by simp, keeps_work h⟩)
  | letGo t cm => exact Or.inr (Or.inr ⟨by simp, by simp, keeps_letGo h⟩)

end SshTunnel.Service

import SshTunnel.Proofs.Service.Ending
import SshTunnel.Proofs.Service.Setup

/-!
A service listens for all of its rules or for none.  Where one of them cannot be listened for, whatever was open is
closed, nobody is ever accepted, the session is closed once, and the start ends with that failure.
-/

namespace SshTunnel.Service

variable {s s' : Service} {m : Move} {ms more : List Move} {rules : List Rule} {limits : Limits}
  {system : Listener.System} {ls : List Listener} {f : Failure}

/-! ### All -/

theorem listeners_run : ∀ {more : List Move} {s s' : Service}, s.stage.isEarly = false → s.run more = some s' →
    s'.listeners = s.listeners
  | [], s, s', _, h => by
    obtain rfl := Option.some.inj h
    rfl
  | m :: more, s, s', hlate, h => by
    obtain ⟨s₁, hs, h⟩ := Option.bind_eq_some_iff.1 h
    obtain ⟨hlate₁, hsame⟩ := listeners_step hs hlate
    exact (listeners_run hlate₁ h).trans hsame

/-! ### None -/

/-- The ways in which a start goes on that has failed with `f`, and how often the session was closed by then. -/
inductive Retreats (f : Failure) (s : Service) : Prop
  | unbound (hst : s.stage = .unbound f) (hcl : s.closings = 0)
  | leaving (hst : s.stage = .leaving f) (hcl : s.closings = 1)
  | failed (hst : s.stage = .failed f) (hcl : s.closings = 1)

theorem Retreats.step (h : Retreats f s) (hs : s.step m = some s') : Retreats f s' := by
  rcases step_cases hs with ⟨x, -, hx⟩ | ⟨x, -, hx⟩ | ⟨-, -, hk⟩
  · cases h with
    | unbound hst hcl =>
      cases hx with
      | close g hst' =>
        obtain rfl := Stage.unbound.inj (hst.symm.trans hst')
        exact .leaving rfl (congrArg (· + 1) hcl)
      | _ => simp_all
    | leaving hst hcl =>
      cases hx with
      | giveUp g hst' =>
        obtain rfl := Stage.leaving.inj (hst.symm.trans hst')
        exact .failed rfl hcl
      | _ => simp_all
    | failed hst hcl =>
      cases hx
      all_goals simp_all
  · cases h
    all_goals
      cases hx
      all_goals simp_all
  · cases h with
    | unbound hst hcl => exact .unbound (hk.stage.trans hst) (hk.closings.trans hcl)
    | leaving hst hcl => exact .leaving (hk.stage.trans hst) (hk.closings.trans hcl)
    | failed hst hcl => exact .failed (hk.stage.trans hst) (hk.closings.trans hcl)

theorem Retreats.run : ∀ {more : List Move} {s s' : Service}, Retreats f s → s.run more = some s' → Retreats f s'
  | [], s, s', h, hr => by
    obtain rfl := Option.some.inj hr
    exact h
  | m :: more, s, s', h, hr => by
    obtain ⟨s₁, hs, hr⟩ := Option.bind_eq_some_iff.1 hr
    exact (h.step hs).run hr

theorem Retreats.isEarly (h : Retreats f s) : s.stage.isEarly = true := by
  cases h with
  | unbound hst | leaving hst | failed hst => rw [hst]; rfl

/-- The start goes on by itself to its end. -/
def Ends (f : Failure) (s : Service) : Prop :=
  ∃ more s', (∀ m ∈ more, ∃ x, m = .start x) ∧ s.run more = some s' ∧ s'.stage = .failed f

theorem Ends.cons {x : StartMove} (h : Ends f s') (hs : s.step (.start x) = some s') : Ends f s := by
  obtain ⟨more, s'', hmore, hr, hst⟩ := h
  refine ⟨.start x :: more, s'', ?_, ?_, hst⟩
  · intro m hm
    rcases List.mem_cons.1 hm with rfl | hm
    · exact ⟨x, rfl⟩
    · exact hmore m hm
  · rw [Service.run, hs]
    exact hr

theorem ends_of_failed (hst : s.stage = .failed f) : Ends f s := ⟨[], s, nofun, rfl, hst⟩

theorem ends_of_leaving (hst : s.stage = .leaving f) : Ends f s := by
  have hgiveUp : s.step (.start .giveUp) = some ({ s with stage := .failed f }.publish .stopped) := by
    simp [step, start, hst]
  exact (ends_of_failed rfl).cons hgiveUp

theorem ends_of_unbound (hst : s.stage = .unbound f) : Ends f s := by
  have hclose : s.step (.start .closeSession) =
      some { s with stage := .leaving f, closings := s.closings + 1, sessionClosed := true } := by
    simp [step, start, hst]
  exact (ends_of_leaving rfl).cons hclose

theorem Retreats.ends (h : Retreats f s) : Ends f s := by
  cases h with
  | unbound hst => exact ends_of_unbound hst
  | leaving hst => exact ends_of_leaving hst
  | failed hst => exact ends_of_failed hst

/-- Until all rules are listened for no acceptor has moved. -/
theorem accept_not_mem (h : (forRules rules limits).run ms = some s) (hearly : s.stage.isEarly = true) (i : Nat)
    (am : Acceptor.Move) : .accept i am ∉ ms := by
  revert hearly
  refine run_induction (P := fun ms s => s.stage.isEarly = true → .accept i am ∉ ms) ?_ ?_ h
  · exact fun _ => List.not_mem_nil
  · intro ms m s s' hrun hnever hs hearly hmem
    have hbefore := isEarly_of_step hs hearly
    rcases List.mem_append.1 hmem with hmem | hmem
    · exact hnever hbefore hmem
    · obtain rfl := List.mem_singleton.1 hmem
      obtain ⟨a, ha, -⟩ := Option.bind_eq_some_iff.1 hs
      rw [(vacant_of_run hrun hbefore).acceptors] at ha
      cases ha

/-- What a rule that cannot be listened for comes to after the moves so far. -/
structure GivesUp (f : Failure) (ms : List Move) (s : Service) : Prop where
  /-- The start is on its way to end with `f`, and closes the session once. -/
  retreats : Retreats f s
  ends : Ends f s
  /-- Then just this was published. -/
  stopped : s.stage = .failed f → s.published = [.idle, .authenticating, .stopped] ∧ s.closings = 1
  /-- Nothing is open, nobody is there, and no acceptor has ever run. -/
  nobody : s.listeners = [] ∧ s.acceptors = [] ∧ s.connections = []
  accepts : ∀ i am, .accept i am ∉ ms

theorem givesUp_of_run (h : (forRules rules limits).run ms = some s) (hretreats : Retreats f s) : GivesUp f ms s := by
  have hvac := vacant_of_run h hretreats.isEarly
  refine ⟨hretreats, hretreats.ends, ?_, ⟨hvac.listeners, hvac.acceptors, hvac.connections⟩, ?_⟩
  · intro hst
    refine ⟨?_, ?_⟩
    · rw [(lawful_of_run h).published, hst]
      rfl
    · cases hretreats with
      | unbound hst' =>
        rw [hst] at hst'
        cases hst'
      | leaving hst' hcl => exact hcl
      | failed hst' hcl => exact hcl
  · exact fun i am => accept_not_mem h hretreats.isEarly i am

/-! ### All or none -/

/-- What asking `system` to listen for the rules comes to, by itself and for a service that has done it. -/
structure AllOrNone (system : Listener.System) (rules : List Rule) (ms : List Move) (s : Service) : Prop where
  outcome : Listener.Outcome system rules (Listener.bindAll system ⟨rules⟩)
  all : ∀ ls, (Listener.bindAll system ⟨rules⟩).result = .ok ls → s.listeners = ls ∧ s.acceptors.length = ls.length
  none : ∀ f, (Listener.bindAll system ⟨rules⟩).result = .error f → GivesUp f ms s

/-- **Listening is for all rules or for none**, whatever the system answers. -/
theorem all_or_none (rules : List Rule) (limits : Limits) (system : Listener.System) (ms : List Move) (s : Service)
    (h : (forRules rules limits).run ms = some s) (hm : .start (.bind system) ∈ ms) : AllOrNone system rules ms s := by
  -- the run is split at the bind, which is where the system is asked
  obtain ⟨before, after, hms⟩ := List.append_of_mem hm
  have hsplit := h
  rw [hms, run_append] at hsplit
  obtain ⟨s₁, h₁, hsplit⟩ := Option.bind_eq_some_iff.1 hsplit
  obtain ⟨s₂, h₂, hafter⟩ := Option.bind_eq_some_iff.1 hsplit
  have hrules := (recorded_of_run h₁).same
  refine ⟨Listener.bindAll_outcome system ⟨rules⟩, ?_, ?_⟩
  · intro ls hls
    have hsame : s.listeners = ls := by
      cases starts_of_start h₂ with
      | unbound _ f hst hf =>
        rw [hrules, hls] at hf
        cases hf
      | bound _ ls' hst hls' =>
        rw [hrules, hls] at hls'
        obtain rfl := Except.ok.inj hls'
        exact listeners_run rfl hafter
    exact ⟨hsame, (placed_of_run h).acceptors.trans (congrArg List.length hsame)⟩
  · intro f hf
    refine givesUp_of_run h (Retreats.run ?_ hafter)
    cases starts_of_start h₂ with
    | unbound _ f' hst hf' =>
      rw [hrules, hf] at hf'
      obtain rfl := Except.error.inj hf'
      refine .unbound rfl ((lawful_of_run h₁).closings_eq_zero ?_)
      rw [hst]
      rfl
    | bound _ ls hst hls =>
      rw [hrules, hf] at hls
      cases hls

/-- The second of three rules asks for a port that somebody has; the session is lost on the way. -/
def secondTaken : List Move :=
  [.start .authenticate, .start (.established (.ok ())), .start (.bind (Listener.onHost [⟨"127.0.0.1", 8081⟩])),
    .start .closeSession, .outside .loseSession, .start .giveUp]

theorem all_or_none_secondTaken :
    ∃ s, (forRules [⟨"127.0.0.1", 8080, "db", 5432⟩, ⟨"127.0.0.1", 8081, "web", 80⟩,
        ⟨"127.0.0.1", 8082, "mail", 25⟩] {}).run secondTaken = some s ∧ s.closings = 1 ∧
      s.stage = .failed (.bindFailed "127.0.0.1:8081" .addrInUse
        "port already in use, another application may be using this port") ∧
      AllOrNone (Listener.onHost [⟨"127.0.0.1", 8081⟩]) [⟨"127.0.0.1", 8080, "db", 5432⟩,
        ⟨"127.0.0.1", 8081, "web", 80⟩, ⟨"127.0.0.1", 8082, "mail", 25⟩] secondTaken s := by
  have hend : ((forRules [⟨"127.0.0.1", 8080, "db", 5432⟩, ⟨"127.0.0.1", 8081, "web", 80⟩,
      ⟨"127.0.0.1", 8082, "mail", 25⟩] {}).run secondTaken).map (fun s => (s.closings, s.stage)) =
      some (1, .failed (.bindFailed "127.0.0.1:8081" .addrInUse
        "port already in use, another application may be using this port")) := by
    decide +kernel
  obtain ⟨s, hs, hshown⟩ := Option.map_eq_some_iff.1 hend
  obtain ⟨hclosings, hstage⟩ := Prod.mk.inj hshown
  exact ⟨s, hs, hclosings, hstage, all_or_none _ _ _ _ s hs (by simp [secondTaken])⟩

end SshTunnel.Service

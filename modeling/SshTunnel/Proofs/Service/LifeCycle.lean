import SshTunnel.Proofs.Runs
import SshTunnel.Proofs.Service.Steps

/-!
The course of a service.  Its stage determines what was published, whether there is a session, how often that
was closed, and whether listeners may be open; what the moves so far were determines which way it went.
-/

namespace SshTunnel

/-! ### What a stage tells -/

/-- The acceptors are known to have ended. -/
def Drain.isJoined : Drain → Bool
  | .announced | .joining => false
  | _ => true

/-- The session is closed from here. -/
def Drain.isParted : Drain → Bool
  | .closed | .stopped => true
  | _ => false

namespace Stage

/-- What was published until then. -/
def history : Stage → List Phase
  | idle => [.idle]
  | authenticating | binding | unbound _ | leaving _ | launching => [.idle, .authenticating]
  | failed _ => [.idle, .authenticating, .stopped]
  | running => [.idle, .authenticating, .running]
  | draining _ .stopped | finished _ => [.idle, .authenticating, .running, .draining, .stopped]
  | draining _ _ => [.idle, .authenticating, .running, .draining]

/-- The session may be there, respectively missing. -/
def mayHave (session : Bool) : Stage → Bool
  | idle | authenticating => !session
  | failed _ => true
  | _ => session

/-- The session is closed from here, if there was one. -/
def isParted : Stage → Bool
  | leaving _ | failed _ | finished _ => true
  | draining _ d => d.isParted
  | _ => false

/-- No listener is open. -/
def isShut : Stage → Bool
  | launching | running => false
  | draining _ d => d.isJoined
  | _ => true

/-- The acceptors have been told to stop. -/
def isTold : Stage → Bool
  | draining _ .announced => false
  | draining .. => true
  | _ => false

/-- The start has failed, though this may not be known yet. -/
def isFailing : Stage → Bool
  | unbound _ | leaving _ | failed _ => true
  | _ => false

/-- Why it does not run any more: because the session was lost, or not. -/
def lost? : Stage → Option Bool
  | draining lost _ | finished lost => some lost
  | _ => none

end Stage

namespace Service

variable {s s' : Service} {m : Move} {ms : List Move}

/-! ### The invariant -/

/-- The service is as its stage says. -/
structure Lawful (s : Service) : Prop where
  published : s.published = s.stage.history
  session : s.stage.mayHave s.hasSession = true
  closings : s.closings = if s.stage.isParted ∧ s.hasSession then 1 else 0
  shut : s.stage.isShut = true → ∀ a ∈ s.acceptors, a.isOpen = false
  told : s.stage.isTold = true → s.stopping = true

theorem lawful_forRules (rules : List Rule) (limits : Limits) : Lawful (forRules rules limits) :=
  ⟨rfl, rfl, rfl, fun _ _ ha => absurd ha List.not_mem_nil, nofun⟩

theorem Lawful.start {x : StartMove} (h : Lawful s) (hx : Starts s x s') : Lawful s' := by
  -- before draining no stage is told to stop, so the last field holds vacuously after every one of these moves
  obtain ⟨hp, hses, hcl, hshut, -⟩ := h
  cases hx with
  | authenticate hs =>
    rw [hs] at hp hses hcl hshut
    exact ⟨congrArg (· ++ [Phase.authenticating]) hp, hses, hcl, hshut, nofun⟩
  | opened hs =>
    rw [hs] at hp hses hcl hshut
    exact ⟨hp, rfl, hcl, hshut, nofun⟩
  | refused f hs =>
    rw [hs] at hp hses hcl hshut
    -- a refused attempt leaves no session, hence nothing that would count as a closing
    have hnone : s.hasSession = false := by simpa [Stage.mayHave] using hses
    refine ⟨congrArg (· ++ [Phase.stopped]) hp, rfl, ?_, hshut, nofun⟩
    simpa [publish, hnone] using hcl
  | unbound system f hs hf =>
    rw [hs] at hp hses hcl hshut
    exact ⟨hp, hses, hcl, hshut, nofun⟩
  | bound system ls hs hls =>
    rw [hs] at hp hses hcl
    exact ⟨hp, hses, hcl, nofun, nofun⟩
  | close f hs =>
    rw [hs] at hp hses hcl hshut
    -- the one way out of `start` that closes a session: it had bound nothing, or not everything
    have hthere : s.hasSession = true := hses
    refine ⟨hp, hses, ?_, hshut, nofun⟩
    simpa [Stage.isParted, hthere] using hcl
  | giveUp f hs =>
    rw [hs] at hp hses hcl hshut
    exact ⟨congrArg (· ++ [Phase.stopped]) hp, rfl, hcl, hshut, nofun⟩
  | announce hs =>
    rw [hs] at hp hses hcl
    exact ⟨congrArg (· ++ [Phase.running]) hp, hses, hcl, nofun, nofun⟩

/-- The waits are between the end of the acceptors and the end of the session. -/
theorem isJoined_of_afterWait {d next : Drain} (h : afterWait? d = some next) :
    (d.isJoined = true ∧ d.isParted = false) ∧ next.isJoined = true ∧ next.isParted = false := by
  unfold afterWait? at h
  split at h
  · cases h
    decide
  · cases h
    decide
  · cases h
    decide
  · cases h

theorem isTold_of_isJoined {lost : Bool} {d : Drain} (h : d.isJoined = true) :
    (Stage.draining lost d).isTold = true := by
  cases d
  all_goals first | rfl | cases h

/-- The phase is the same all along from the beginning of draining until the end is published. -/
theorem history_draining {lost : Bool} {d : Drain} (h : d.isParted = false) :
    (Stage.draining lost d).history = [.idle, .authenticating, .running, .draining] := by
  cases d
  all_goals first | rfl | cases h

theorem Lawful.stop {x : StopMove} (h : Lawful s) (hx : Stops s x s') : Lawful s' := by
  obtain ⟨hp, hses, hcl, hshut, htold⟩ := h
  cases hx with
  | drain lost hs hlost =>
    rw [hs] at hp hses hcl
    exact ⟨congrArg (· ++ [Phase.draining]) hp, hses, hcl, nofun, nofun⟩
  | stopAccepting lost hs =>
    rw [hs] at hp hses hcl
    exact ⟨hp, hses, hcl, nofun, fun _ => rfl⟩
  | join lost hs hclosed =>
    rw [hs] at hp hses hcl htold
    exact ⟨hp, hses, hcl, fun _ => hclosed, htold⟩
  | idle lost d next hs hd hidle =>
    -- `next` is not a constructor here, so what holds of it is had from where the waits stand
    obtain ⟨⟨hj, hpart⟩, -⟩ := isJoined_of_afterWait hd
    rw [hs, history_draining hpart] at hp
    rw [hs] at hses hcl hshut htold
    have hzero : s.closings = 0 := by simpa [Stage.isParted, hpart] using hcl
    exact ⟨hp, hses, hzero, fun _ => hshut hj, fun _ => htold (isTold_of_isJoined hj)⟩
  | overdue lost d next hs hd hbusy =>
    obtain ⟨⟨hj, hpart⟩, -, hpart'⟩ := isJoined_of_afterWait hd
    rw [hs, history_draining hpart] at hp
    rw [hs] at hses hcl hshut htold
    refine ⟨hp.trans (history_draining hpart').symm, hses, ?_, fun _ => hshut hj,
      fun _ => htold (isTold_of_isJoined hj)⟩
    simpa [Stage.isParted, hpart, hpart'] using hcl
  | force lost hs =>
    rw [hs] at hp hses hcl hshut htold
    exact ⟨hp, hses, hcl, hshut, htold⟩
  | abort lost hs =>
    rw [hs] at hp hses hcl hshut htold
    exact ⟨hp, hses, hcl, hshut, htold⟩
  | close lost hs =>
    rw [hs] at hp hses hcl hshut htold
    -- draining is entered from `running` only, where there is a session, and this is its first closing
    have hthere : s.hasSession = true := hses
    refine ⟨hp, hses, ?_, hshut, htold⟩
    simpa [Stage.isParted, Drain.isParted, hthere] using hcl
  | announce lost hs =>
    rw [hs] at hp hses hcl hshut htold
    exact ⟨congrArg (· ++ [Phase.stopped]) hp, hses, hcl, hshut, htold⟩
  | leave lost hs =>
    rw [hs] at hp hses hcl hshut
    exact ⟨hp, hses, hcl, hshut, nofun⟩

theorem Lawful.keeps (h : Lawful s) (hk : Keeps m s s') : Lawful s' := by
  refine ⟨?_, ?_, ?_, ?_, ?_⟩
  · rw [hk.published, hk.stage, h.published]
  · rw [hk.stage, hk.hasSession]
    exact h.session
  · rw [hk.closings, hk.stage, hk.hasSession]
    exact h.closings
  · rw [hk.stage]
    exact fun hshut => hk.closed (h.shut hshut)
  · rw [hk.stage, hk.stopping]
    exact h.told

/-- Every move keeps the service as its stage says. -/
theorem Lawful.step (h : Lawful s) (hs : s.step m = some s') : Lawful s' := by
  rcases step_cases hs with ⟨x, -, hx⟩ | ⟨x, -, hx⟩ | ⟨-, -, hk⟩
  · exact h.start hx
  · exact h.stop hx
  · exact h.keeps hk

/-! ### Runs -/

theorem isRun : IsRun step run := ⟨fun _ => rfl, fun _ _ _ => rfl⟩

theorem run_append (s : Service) (ms ms' : List Move) : s.run (ms ++ ms') = (s.run ms).bind fun s' => s'.run ms' :=
  isRun.append s ms ms'

/-- Induction over a run from its end. -/
theorem run_induction {s₀ : Service} {P : List Move → Service → Prop} (hinit : P [] s₀)
    (hstep : ∀ ms m s s', s₀.run ms = some s → P ms s → s.step m = some s' → P (ms ++ [m]) s') :
    ∀ {ms : List Move} {s : Service}, s₀.run ms = some s → P ms s :=
  isRun.induction hinit hstep

theorem lawful_of_run {rules : List Rule} {limits : Limits} (h : (forRules rules limits).run ms = some s) :
    Lawful s :=
  run_induction (P := fun _ s => Lawful s) (lawful_forRules rules limits)
    (fun _ _ _ _ _ hlaw hs => hlaw.step hs) h

/-! ### What the moves tell -/

/-- The session cannot be opened, or a rule cannot be listened for. -/
def Move.Fails (rules : List Rule) : Move → Prop
  | .start (.established (.error _)) => True
  | .start (.bind system) => ∃ f, (Listener.bindAll system ⟨rules⟩).result = .error f
  | _ => False

theorem rules_step (h : s.step m = some s') : s'.rules = s.rules := by
  rcases step_cases h with ⟨x, rfl, hx⟩ | ⟨x, rfl, hx⟩ | ⟨-, -, hk⟩
  · cases hx
    all_goals rfl
  · cases hx
    all_goals rfl
  · exact hk.rules

theorem session_step (h : s.step m = some s') :
    s'.hasSession = true ↔ s.hasSession = true ∨ m = .start (.established (.ok ())) := by
  rcases step_cases h with ⟨x, rfl, hx⟩ | ⟨x, rfl, hx⟩ | ⟨hstart, -, hk⟩
  · cases hx
    all_goals simp [publish]
  · cases hx
    all_goals simp [publish, abortAll]
  · simp [hk.hasSession, hstart]

theorem failing_step (h : s.step m = some s') :
    s'.stage.isFailing = true ↔ s.stage.isFailing = true ∨ m.Fails s.rules := by
  rcases step_cases h with ⟨x, rfl, hx⟩ | ⟨x, rfl, hx⟩ | ⟨hstart, -, hk⟩
  · cases hx
    all_goals simp_all [publish, Stage.isFailing, Move.Fails]
  · cases hx
    all_goals simp_all [publish, Stage.isFailing, Move.Fails]
  · rw [hk.stage]
    have hnot : ¬ m.Fails s.rules := by
      intro hf
      cases m with
      | start x => exact hstart x rfl
      | _ => exact hf
    simp [hnot]

theorem left_step (h : s.step m = some s') (lost : Bool) :
    s'.stage.lost? = some lost ↔ s.stage.lost? = some lost ∨ m = .stop (.drain lost) := by
  rcases step_cases h with ⟨x, rfl, hx⟩ | ⟨x, rfl, hx⟩ | ⟨-, hstop, hk⟩
  · cases hx
    all_goals simp_all [publish, Stage.lost?]
  · cases hx
    all_goals simp_all [publish, Stage.lost?]
  · simp [hk.stage, hstop]

/-- A session that is closed was closed from here, or lost. -/
theorem lost_step (h : s.step m = some s') (hc : s'.sessionClosed = true) :
    s.closings ≤ s'.closings ∧ (s.sessionClosed = true ∨ m = .outside .loseSession ∨ s.closings < s'.closings) := by
  rcases step_cases h with ⟨x, rfl, hx⟩ | ⟨x, rfl, hx⟩ | ⟨-, -, hk⟩
  · cases hx
    all_goals simp_all [publish]
  · cases hx
    all_goals simp_all [publish, abortAll]
  · refine ⟨Nat.le_of_eq hk.closings.symm, ?_⟩
    rcases hk.sessionClosed hc with hc | hm
    · exact Or.inl hc
    · exact Or.inr (Or.inl hm)

theorem asked_step (h : s.step m = some s') (ha : s'.stopAsked = true) :
    s.stopAsked = true ∨ m = .outside .askStop ∨ m = .outside .dropHandle := by
  rcases step_cases h with ⟨x, rfl, hx⟩ | ⟨x, rfl, hx⟩ | ⟨-, -, hk⟩
  · cases hx
    all_goals exact Or.inl ha
  · cases hx
    all_goals exact Or.inl ha
  · exact hk.stopAsked ha

/-- The service is as the moves so far have made it. -/
structure Recorded (rules : List Rule) (ms : List Move) (s : Service) : Prop where
  same : s.rules = rules
  session : s.hasSession = true ↔ .start (.established (.ok ())) ∈ ms
  failing : s.stage.isFailing = true ↔ ∃ m ∈ ms, m.Fails rules
  left : ∀ lost, s.stage.lost? = some lost ↔ .stop (.drain lost) ∈ ms
  lost : s.sessionClosed = true → .outside .loseSession ∈ ms ∨ 0 < s.closings
  asked : s.stopAsked = true → .outside .askStop ∈ ms ∨ .outside .dropHandle ∈ ms

theorem Recorded.step {rules : List Rule} (h : Recorded rules ms s) (hs : s.step m = some s') :
    Recorded rules (ms ++ [m]) s' := by
  refine ⟨?_, ?_, ?_, ?_, ?_, ?_⟩
  · rw [rules_step hs, h.same]
  · rw [session_step hs, h.session]
    simp [eq_comm]
  · rw [failing_step hs, h.failing, h.same]
    simp [or_and_right, exists_or]
  · intro lost
    rw [left_step hs, h.left]
    simp [eq_comm]
  · intro hc
    -- closings never go down, so one counted before is still counted
    obtain ⟨hle, hc | rfl | hlt⟩ := lost_step hs hc
    · rcases h.lost hc with hmem | hpos
      · exact Or.inl (List.mem_append_left _ hmem)
      · exact Or.inr (by omega)
    · exact Or.inl (by simp)
    · exact Or.inr (by omega)
  · intro ha
    rcases asked_step hs ha with ha | rfl | rfl
    · rcases h.asked ha with hmem | hmem
      · exact Or.inl (List.mem_append_left _ hmem)
      · exact Or.inr (List.mem_append_left _ hmem)
    · exact Or.inl (by simp)
    · exact Or.inr (by simp)

theorem recorded_of_run {rules : List Rule} {limits : Limits} (h : (forRules rules limits).run ms = some s) :
    Recorded rules ms s := by
  refine run_induction (P := Recorded rules) ?_ (fun _ _ _ _ _ hrec hs => hrec.step hs) h
  refine ⟨rfl, ?_, ?_, ?_, ?_, ?_⟩
  · simp [forRules]
  · simp [forRules, Stage.isFailing]
  · simp [forRules, Stage.lost?]
  · simp [forRules]
  · simp [forRules]

end Service

end SshTunnel

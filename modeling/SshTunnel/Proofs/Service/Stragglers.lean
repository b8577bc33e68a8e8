import SshTunnel.Proofs.Service.Capped
import SshTunnel.Proofs.Service.Draining
import SshTunnel.Proofs.Service.Ending

/-!
Who is left when the end is published.  The supervisor waits three times, each time for so long and no longer, and
does not look at what the last wait has come to; so nobody is left for certain only where nobody was there any more.
Whoever is left after all has been aborted by then, and has only its own end before it.
-/

namespace SshTunnel

/-- No wait is going to follow. -/
def Stage.hasWaited : Stage → Bool
  | draining _ .parting | finished _ => true
  | draining _ d => d.isParted
  | _ => false

namespace Service

variable {s s' : Service} {m : Move} {x : StopMove} {ms more : List Move} {rules : List Rule} {limits : Limits}
  {t : TaskId} {c c' : Connection} {lost : Bool}

/-- Nobody is on the roster, and no task works any more; the latter as long as ids do not begin anew. -/
structure NobodyLeft (s : Service) : Prop where
  active : s.roster.active = 0
  tasks : s.connections.length < 2 ^ 64 → ∀ c ∈ s.connections, c.isLive = false

/-- Whatever happens, nobody is left when the end is published. -/
def EndsEmpty (s : Service) : Prop :=
  ∀ more s', s.run more = some s' → .stopped ∈ s'.published → NobodyLeft s'

/-! ### Nobody is there any more -/

theorem nobodyLeft_of_active (h : (forRules rules limits).run ms = some s) (hj : s.stage.isJoined = true)
    (hactive : s.roster.active = 0) : NobodyLeft s := by
  refine ⟨hactive, fun hb c hc => ?_⟩
  have hclosed := (lawful_of_run h).closed_of_isJoined hj
  by_contra hne
  have hheld := held_of_isLive h hc (by simpa using hne)
  obtain ⟨t, ht⟩ := List.getElem?_of_mem hc
  obtain ⟨e, he, -⟩ := mem_tasks.1 ((mem_tasks_iff h hclosed hb ht).2 hheld)
  rw [List.length_eq_zero_iff.1 hactive] at he
  cases he

theorem endsEmpty_of_active (h : (forRules rules limits).run ms = some s) (hj : s.stage.isJoined = true)
    (hactive : s.roster.active = 0) : EndsEmpty s := by
  intro more s' hr _
  have hrun : (forRules rules limits).run (ms ++ more) = some s' := by
    rw [run_append, h]
    exact hr
  have hle := ((lawful_of_run h).remains hj hr).active
  exact nobodyLeft_of_active hrun (isJoined_of_run hj hr) (by omega)

/-- A look that finds nobody is enough. -/
theorem active_of_idle (h : (forRules rules limits).run ms = some s) (hm : .stop .idle ∈ ms) :
    s.roster.active = 0 := by
  obtain ⟨before, after, rfl⟩ := List.append_of_mem hm
  rw [run_append] at h
  obtain ⟨s₁, h₁, h⟩ := Option.bind_eq_some_iff.1 h
  obtain ⟨s₂, h₂, h⟩ := Option.bind_eq_some_iff.1 h
  have hlaw := (lawful_of_run h₁).step h₂
  cases stops_of_stop h₂ with
  | idle lost d next hst hd hidle =>
    have hle := (hlaw.remains rfl h).active
    have hnone : s₁.roster.active = 0 := List.length_eq_zero_iff.2 hidle
    exact Nat.le_zero.1 (hnone ▸ hle)

/-! ### The supervisor does not wait for ever -/

/-- The end is published and the same people are still there. -/
def EndsBusy (s : Service) : Prop :=
  ∃ more s', s.run more = some s' ∧ .stopped ∈ s'.published ∧ s'.roster = s.roster

theorem EndsBusy.cons (h : EndsBusy s') (hs : s.step (.stop x) = some s') (hr : s'.roster = s.roster) :
    EndsBusy s := by
  obtain ⟨more, s'', hrun, hp, hr'⟩ := h
  refine ⟨.stop x :: more, s'', ?_, hp, hr'.trans hr⟩
  rw [run, hs]
  exact hrun

theorem step_stop_of_drain {d : Drain} (hst : s.stage = .draining lost d) (hx : s.drain lost d x = some s') :
    s.step (.stop x) = some s' := by
  simp only [step, stop, hst, hx]

/-- A wait whose time is up. -/
theorem drain_overdue {next : Drain} (hbusy : s.roster.entries ≠ []) :
    s.goOn false lost next = some { s with stage := .draining lost next } := by
  rw [goOn, List.isEmpty_eq_false_iff.2 hbusy, if_pos rfl]

theorem endsBusy_of_closed (hst : s.stage = .draining lost .closed) : EndsBusy s := by
  have hstep : s.step (.stop .announce) = some ({ s with stage := .draining lost .stopped }.publish .stopped) :=
    step_stop_of_drain hst rfl
  refine ⟨[.stop .announce], { s with stage := .draining lost .stopped }.publish .stopped, ?_, ?_, rfl⟩
  · rw [run, hstep]
    rfl
  · exact List.mem_append_right _ (List.mem_singleton_self _)

theorem endsBusy_of_parting (hst : s.stage = .draining lost .parting) : EndsBusy s := by
  have hclosed : EndsBusy { s with
      stage := .draining lost .closed, closings := s.closings + 1, sessionClosed := true } :=
    endsBusy_of_closed rfl
  exact hclosed.cons (step_stop_of_drain (x := .closeSession) hst rfl) rfl

theorem endsBusy_of_aborted (hst : s.stage = .draining lost .aborted) (hbusy : s.roster.entries ≠ []) :
    EndsBusy s := by
  have hparting : EndsBusy { s with stage := .draining lost .parting } := endsBusy_of_parting rfl
  exact hparting.cons (step_stop_of_drain (x := .overdue) hst (drain_overdue hbusy)) rfl

theorem endsBusy_of_stuck (hst : s.stage = .draining lost .stuck) (hbusy : s.roster.entries ≠ []) :
    EndsBusy s := by
  have haborted : EndsBusy { s.abortAll with stage := .draining lost .aborted } := endsBusy_of_aborted rfl hbusy
  exact haborted.cons (step_stop_of_drain (x := .abort) hst rfl) rfl

theorem endsBusy_of_forced (hst : s.stage = .draining lost .forced) (hbusy : s.roster.entries ≠ []) :
    EndsBusy s := by
  have hstuck : EndsBusy { s with stage := .draining lost .stuck } := endsBusy_of_stuck rfl hbusy
  exact hstuck.cons (step_stop_of_drain (x := .overdue) hst (drain_overdue hbusy)) rfl

theorem endsBusy_of_overdue (hst : s.stage = .draining lost .overdue) (hbusy : s.roster.entries ≠ []) :
    EndsBusy s := by
  have hforced : EndsBusy { s with stage := .draining lost .forced, forcing := true } :=
    endsBusy_of_forced rfl hbusy
  exact hforced.cons (step_stop_of_drain (x := .force) hst rfl) rfl

theorem endsBusy_of_waiting (hst : s.stage = .draining lost .waiting) (hbusy : s.roster.entries ≠ []) :
    EndsBusy s := by
  have hoverdue : EndsBusy { s with stage := .draining lost .overdue } := endsBusy_of_overdue rfl hbusy
  exact hoverdue.cons (step_stop_of_drain (x := .overdue) hst (drain_overdue hbusy)) rfl

/-- As long as somebody is there the supervisor may come to its end before them. -/
theorem Lawful.endsBusy (h : Lawful s) (hj : s.stage.isJoined = true) (hbusy : s.roster.entries ≠ []) :
    EndsBusy s := by
  have hpublished (hp : .stopped ∈ s.stage.history) : EndsBusy s := ⟨[], s, rfl, h.published ▸ hp, rfl⟩
  cases hst : s.stage with
  | draining lost d =>
    cases d with
    | announced => rw [hst] at hj; cases hj
    | joining => rw [hst] at hj; cases hj
    | waiting => exact endsBusy_of_waiting hst hbusy
    | overdue => exact endsBusy_of_overdue hst hbusy
    | forced => exact endsBusy_of_forced hst hbusy
    | stuck => exact endsBusy_of_stuck hst hbusy
    | aborted => exact endsBusy_of_aborted hst hbusy
    | parting => exact endsBusy_of_parting hst
    | closed => exact endsBusy_of_closed hst
    | stopped => exact hpublished (by rw [hst]; simp [Stage.history])
  | finished lost => exact hpublished (by rw [hst]; simp [Stage.history])
  | _ => rw [hst] at hj; cases hj

/-! ### Whoever is left -/

/-- Everybody on the roster has been told to end at once. -/
def AllAborted (s : Service) : Prop :=
  ∀ e ∈ s.roster.entries, ∃ t c, e.task = some t ∧ s.connections[t]? = some c ∧ c.id = e.id ∧ c.aborted = true

/-- A connection stays aborted, whatever is done with it. -/
theorem AllAborted.set (h : AllAborted s) (hc : s.connections[t]? = some c)
    (hconn : s'.connections = s.connections.set t c') (hentries : ∀ e ∈ s'.roster.entries, e ∈ s.roster.entries)
    (hid : c'.id = c.id) (habort : c'.aborted = c.aborted) : AllAborted s' := by
  intro e he
  obtain ⟨u, d, hu, hd, hdid, hdabort⟩ := h e (hentries e he)
  by_cases htu : t = u
  · subst htu
    obtain rfl := Option.some.inj (hc.symm.trans hd)
    exact ⟨t, c', hu, hconn ▸ getElem?_set_of_getElem? hc c', hid.trans hdid, habort.trans hdabort⟩
  · exact ⟨u, d, hu, by rw [hconn, List.getElem?_set_ne htu, hd], hdid, hdabort⟩

theorem AllAborted.same (h : AllAborted s) (hconn : s'.connections = s.connections)
    (hentries : s'.roster.entries = s.roster.entries) : AllAborted s' := by
  unfold AllAborted
  rw [hconn, hentries]
  exact h

theorem AllAborted.abort (h : AllAborted s) (stage : Stage) : AllAborted { s.abortAll with stage } := by
  intro e he
  obtain ⟨t, c, ht, hc, hid, habort⟩ := h e he
  refine ⟨t, if t ∈ s.roster.tasks then { c with aborted := true } else c, ht, ?_, ?_, ?_⟩
  · dsimp only [abortAll]
    rw [List.getElem?_mapIdx, hc]
    rfl
  · split <;> exact hid
  · split
    · rfl
    · exact habort

theorem AllAborted.step (h : AllAborted s) (hlaw : Lawful s) (hj : s.stage.isJoined = true)
    (hs : s.step m = some s') : AllAborted s' := by
  have hclosed := hlaw.closed_of_isJoined hj
  have hopen : ∀ {i : Nat} {a : Acceptor}, s.acceptors[i]? = some a → a.isOpen = true → AllAborted s' :=
    fun ha ho => closed_of_open ha ho hclosed
  cases effect_of_step hs with
  | aside hm hsame => exact h.same hsame.connections (congrArg Roster.entries hsame.roster)
  | abort lost hst => exact h.abort _
  | number i a cl ha hst => exact hopen ha (by simp [Acceptor.isOpen, hst])
  | enter i a cl id ha hst => exact hopen ha (by simp [Acceptor.isOpen, hst])
  | count i a cl id ha hst => exact hopen ha (by simp [Acceptor.isOpen, hst])
  | spawn i a cl id ha hst => exact hopen ha (by simp [Acceptor.isOpen, hst])
  | note i a id task ha hst => exact hopen ha (by simp [Acceptor.isOpen, hst])
  | dial t c rule hc hrule hidle hlive => exact h.set hc rfl (fun _ he => he) rfl rfl
  | work t cm c c' rule hm hc hrule hagree hwork =>
    exact h.set hc rfl (fun _ he => he) (congrArg Booking.id hwork.booking) hwork.aborted
  | remove t c hc hdone hheld hfirst => exact h.set hc rfl (fun _ he => (List.mem_filter.1 he).1) rfl rfl
  | countOut t c hc hremoved => exact h.set hc rfl (fun _ he => he) rfl rfl
  | returnPermit t c a hc ha hdone hpermit hlast => exact h.set hc rfl (fun _ he => he) rfl rfl
  | _ => exact h.same rfl rfl

theorem AllAborted.run : ∀ {more : List Move} {s s' : Service}, AllAborted s → Lawful s → s.stage.isJoined = true →
    s.run more = some s' → AllAborted s'
  | [], s, s', h, _, _, hr => by
    obtain rfl := Option.some.inj hr
    exact h
  | m :: more, s, s', h, hlaw, hj, hr => by
    obtain ⟨s₁, hs, hr⟩ := Option.bind_eq_some_iff.1 hr
    exact (h.step hlaw hj hs).run (hlaw.step hs) (isJoined_of_step hs hj) hr

/-- Once the acceptors have ended, everybody on the roster can be told. -/
theorem Noted.allAborted (h : Noted s) (hclosed : ∀ a ∈ s.acceptors, a.isOpen = false) (stage : Stage) :
    AllAborted { s.abortAll with stage } := by
  intro e he
  have hmem : e ∈ s.roster.entries := he
  obtain ⟨t, ht, b, hb, hid⟩ := h.exists_task hclosed hmem
  obtain ⟨c, hc, rfl⟩ := getElem?_bookings hb
  refine ⟨t, { c with aborted := true }, ht, ?_, hid, rfl⟩
  dsimp only [abortAll]
  rw [List.getElem?_mapIdx, hc, Option.map_some, if_pos (mem_tasks.2 ⟨e, hmem, ht⟩)]

theorem allAborted_of_abort (h : (forRules rules limits).run ms = some s) (hm : .stop .abort ∈ ms) :
    AllAborted s := by
  obtain ⟨before, after, rfl⟩ := List.append_of_mem hm
  rw [run_append] at h
  obtain ⟨s₁, h₁, h⟩ := Option.bind_eq_some_iff.1 h
  obtain ⟨s₂, h₂, h⟩ := Option.bind_eq_some_iff.1 h
  have hlaw := lawful_of_run h₁
  cases stops_of_stop h₂ with
  | abort lost hst =>
    have hclosed := hlaw.closed_of_isJoined (by rw [hst]; rfl)
    exact ((noted_of_run h₁).allAborted hclosed _).run (hlaw.step h₂) rfl h

/-- The waits end with a look that finds nobody, or else everybody is aborted. -/
structure Waited (ms : List Move) (s : Service) : Prop where
  aborted : ∀ lost, s.stage = .draining lost .aborted → .stop .abort ∈ ms
  ended : s.stage.hasWaited = true → .stop .idle ∈ ms ∨ .stop .abort ∈ ms

/-- A move that does not end a wait. -/
theorem Waited.snoc (h : Waited ms s)
    (hst : s'.stage = s.stage ∨ s.stage.hasWaited = true ∧ ∀ lost, s'.stage ≠ .draining lost .aborted) :
    Waited (ms ++ [m]) s' := by
  have hlater : ∀ {x : Move}, x ∈ ms → x ∈ ms ++ [m] := fun hx => List.mem_append_left _ hx
  rcases hst with hsame | ⟨hwaited, hne⟩
  · refine ⟨fun lost hst => ?_, fun hw => ?_⟩
    · exact hlater (h.aborted lost (hsame ▸ hst))
    · exact (h.ended (hsame ▸ hw)).imp hlater hlater
  · exact ⟨fun lost hst => absurd hst (hne lost), fun _ => (h.ended hwaited).imp hlater hlater⟩

theorem waited_of_run (h : (forRules rules limits).run ms = some s) : Waited ms s := by
  refine run_induction (P := fun ms s => Waited ms s) ⟨fun _ hst => ?_, fun hw => ?_⟩ ?_ h
  · cases hst
  · cases hw
  intro ms m s s' _ hall hs
  rcases step_cases hs with ⟨x, rfl, hx⟩ | ⟨x, rfl, hx⟩ | ⟨-, -, hk⟩
  · cases hx
    all_goals exact ⟨nofun, nofun⟩
  · cases hx with
    | idle lost d next hst hd hidle => exact ⟨nofun, fun _ => Or.inl (by simp)⟩
    | abort lost hst => exact ⟨fun _ _ => by simp, nofun⟩
    -- of the three waits only the last one ends with somebody left, and it follows the abort
    | overdue lost d next hst hd hbusy =>
      cases d with
      | aborted =>
        obtain rfl := Option.some.inj hd
        exact ⟨nofun, fun _ => Or.inr (List.mem_append_left _ (hall.aborted lost hst))⟩
      | waiting =>
        obtain rfl := Option.some.inj hd
        exact ⟨nofun, nofun⟩
      | forced =>
        obtain rfl := Option.some.inj hd
        exact ⟨nofun, nofun⟩
      | _ => cases hd
    | close lost hst => exact hall.snoc (Or.inr ⟨by rw [hst]; rfl, nofun⟩)
    | announce lost hst => exact hall.snoc (Or.inr ⟨by rw [hst]; rfl, nofun⟩)
    | leave lost hst => exact hall.snoc (Or.inr ⟨by rw [hst]; rfl, nofun⟩)
    | _ => exact ⟨nofun, nofun⟩
  · exact hall.snoc (Or.inl hk.stage)

theorem hasWaited_of_isParted (hj : s.stage.isJoined = true) (hp : s.stage.isParted = true) :
    s.stage.hasWaited = true := by
  cases hst : s.stage with
  | draining lost d =>
    rw [hst] at hp
    cases d
    all_goals first | rfl | exact hp
  | finished lost => rfl
  | _ =>
    rw [hst] at hj
    cases hj

/-- A task that was told to end can. -/
theorem step_cancel (h : (forRules rules limits).run ms = some s) (hc : s.connections[t]? = some c)
    (habort : c.aborted = true) (hlive : c.isLive = true) : (s.step (.work t .cancel)).isSome = true := by
  obtain ⟨rule, hrule⟩ := exists_rule_of_run h hc
  have hdone : c.done = false := by simpa [Connection.isLive] using hlive
  have hcancel : c.work ⟨rule.remoteAddr, s.limits.dial⟩ s.isForced .cancel = some { c with done := true } := by
    simp [Connection.work, habort, hdone]
  rw [step_work_over hc hrule (Or.inr rfl) hcancel]
  rfl

/-! ### The end -/

/-- What is so of those who are there once the supervisor has seen all acceptors end. -/
structure Parting (ms : List Move) (s : Service) : Prop where
  /-- The end is sure to find nobody exactly if nobody is there by now. -/
  endsEmpty_iff : EndsEmpty s ↔ s.roster.active = 0
  seen : .stop .idle ∈ ms → EndsEmpty s
  /-- At the end a look has found nobody; or everybody was told to end at once, and can. -/
  told : .stopped ∈ s.published → .stop .idle ∈ ms ∨
    ∀ e ∈ s.roster.entries, ∃ t c, e.task = some t ∧ s.connections[t]? = some c ∧ c.id = e.id ∧
      c.aborted = true ∧ (c.isLive = true → (s.step (.work t .cancel)).isSome = true)

/-- **Nobody is left at the end for certain only if nobody was left before**, since no wait is longer than its time;
whoever is left then has been aborted. -/
theorem parting (rules : List Rule) (limits : Limits) (ms : List Move) (s : Service)
    (h : (forRules rules limits).run ms = some s) (hjoin : .stop .join ∈ ms) : Parting ms s := by
  have hj := isJoined_of_mem h hjoin
  have hlaw := lawful_of_run h
  refine ⟨⟨fun hends => ?_, endsEmpty_of_active h hj⟩, fun hidle => ?_, fun hp => ?_⟩
  · by_contra hactive
    obtain ⟨more, s', hr, hp, hroster⟩ :=
      hlaw.endsBusy hj fun hnil => hactive (List.length_eq_zero_iff.2 hnil)
    have hnone := (hends more s' hr hp).active
    rw [hroster] at hnone
    exact hactive hnone
  · exact endsEmpty_of_active h hj (active_of_idle h hidle)
  · refine ((waited_of_run h).ended (hasWaited_of_isParted hj (hlaw.isParted_of_stopped hp))).imp id fun habort => ?_
    intro e he
    obtain ⟨t, c, ht, hc, hid, haborted⟩ := allAborted_of_abort h habort e he
    exact ⟨t, c, ht, hc, hid, haborted, step_cancel h hc haborted⟩

/-- The client is aborted and nothing is left of it at the next look. -/
theorem parting_stuckClient :
    ∃ s, (forRules [⟨"127.0.0.1", 8080, "db", 5432⟩] {}).run (stuckClient ++ [.stop .abort, .work 0 .cancel,
        .letGo 0 .remove, .stop .idle]) = some s ∧ s.roster.active = 0 ∧
      Parting (stuckClient ++ [.stop .abort, .work 0 .cancel, .letGo 0 .remove, .stop .idle]) s := by
  have hend : ((forRules [⟨"127.0.0.1", 8080, "db", 5432⟩] {}).run (stuckClient ++ [.stop .abort, .work 0 .cancel,
      .letGo 0 .remove, .stop .idle])).map (fun s => s.roster.active) = some 0 := by
    decide +kernel
  obtain ⟨s, hs, hactive⟩ := Option.map_eq_some_iff.1 hend
  exact ⟨s, hs, hactive, parting _ _ _ s hs (by simp [stuckClient])⟩

/-- The same client, whose task is not scheduled in the time of the last wait: the end is published, and it is still
on the roster and at work. -/
theorem stopped_before_stuckClient :
    ∃ s, (forRules [⟨"127.0.0.1", 8080, "db", 5432⟩] {}).run
        (stuckClient ++ [.stop .abort, .stop .overdue, .stop .closeSession, .stop .announce]) = some s ∧
      s.published = [.idle, .authenticating, .running, .draining, .stopped] ∧ s.roster.active = 1 ∧
      s.connections.map Connection.isLive = [true] ∧ ¬ NobodyLeft s := by
  have hend : ((forRules [⟨"127.0.0.1", 8080, "db", 5432⟩] {}).run
      (stuckClient ++ [.stop .abort, .stop .overdue, .stop .closeSession, .stop .announce])).map
      (fun s => (s.published, s.roster.active, s.connections.map Connection.isLive)) =
      some ([.idle, .authenticating, .running, .draining, .stopped], 1, [true]) := by
    decide +kernel
  obtain ⟨s, hs, hshown⟩ := Option.map_eq_some_iff.1 hend
  obtain ⟨hpublished, hrest⟩ := Prod.mk.inj hshown
  obtain ⟨hactive, hlive⟩ := Prod.mk.inj hrest
  refine ⟨s, hs, hpublished, hactive, hlive, fun hnobody => ?_⟩
  rw [hnobody.active] at hactive
  cases hactive

end Service

end SshTunnel

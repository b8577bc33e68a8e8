import SshTunnel.Proofs.Service.Ending
import SshTunnel.Proofs.Service.Finishing
import SshTunnel.Service.Handle

/-!
A service from its start to its end, with the handle on it in somebody's hands: what is published, when the
session is closed, and what a wait for the end returns.
-/

namespace SshTunnel

namespace Service

variable {s s' : Service} {m : Move} {ms : List Move} {lost : Bool}

/-- It stopped running because the session had been lost, respectively because it had been asked to stop or
nobody was left to ask. -/
def LeftFor (lost : Bool) (ms : List Move) : Prop :=
  ∃ before after, ms = before ++ .stop (.drain lost) :: after ∧
    if lost then .outside .loseSession ∈ before
    else .outside .askStop ∈ before ∨ .outside .dropHandle ∈ before

theorem leftFor_of_mem {rules : List Rule} {limits : Limits} (h : (forRules rules limits).run ms = some s)
    (hm : .stop (.drain lost) ∈ ms) : LeftFor lost ms := by
  obtain ⟨before, after, rfl⟩ := List.append_of_mem hm
  refine ⟨before, after, rfl, ?_⟩
  rw [run_append] at h
  obtain ⟨s₁, h₁, h⟩ := Option.bind_eq_some_iff.1 h
  obtain ⟨s₂, h₂, -⟩ := Option.bind_eq_some_iff.1 h
  have hrec := recorded_of_run h₁
  have hlaw := lawful_of_run h₁
  cases stops_of_stop h₂ with
  | drain _ hs hlost =>
    rcases hlost with ⟨rfl, hclosed⟩ | ⟨rfl, hasked⟩
    · have hzero := hlaw.closings_eq_zero (by rw [hs]; rfl)
      rcases hrec.lost hclosed with hlose | hpos
      · exact hlose
      · omega
    · exact hrec.asked hasked

theorem leftFor_iff {rules : List Rule} {limits : Limits} (h : (forRules rules limits).run ms = some s) :
    LeftFor lost ms ↔ s.stage.lost? = some lost := by
  rw [(recorded_of_run h).left]
  constructor
  · rintro ⟨before, after, rfl, -⟩
    simp
  · exact leftFor_of_mem h

/-- What a wait for the end of a service returns. -/
def answer (lost : Bool) : Except Failure Unit :=
  if lost then .error (.transportFailure "gateway connection closed") else .ok ()

theorem outcome?_eq_some_iff {r : Except Failure Unit} :
    s.stage.outcome? = some r ↔ ∃ lost, s.stage = .finished lost ∧ r = answer lost := by
  cases hs : s.stage with
  | finished lost =>
    cases lost
    all_goals simp [Stage.outcome?, answer, eq_comm]
  | _ => simp [Stage.outcome?]

theorem finished_step (hs : s.stage = .finished lost) (h : s.step m = some s') : s'.stage = .finished lost := by
  rcases step_cases h with ⟨x, -, hx⟩ | ⟨x, -, hx⟩ | ⟨-, -, hk⟩
  · cases hx
    all_goals simp_all
  · cases hx
    all_goals simp_all
  · rw [hk.stage, hs]

end Service

namespace Owned

variable {o o' : Owned} {m : Move} {ms : List Move}

/-! ### The service within -/

/-- The move of the service that a move comes to. -/
def Move.inner? : Move → Option Service.Move
  | .inside m => some m
  | .askStop | .request => some (.outside .askStop)
  | .drop => some (.outside .dropHandle)
  | .wait | .watch | .collect => none

def inner (ms : List Move) : List Service.Move := ms.filterMap Move.inner?

theorem withService_eq_some {x : Service.Move} {handle : Handle} (h : o.withService x handle = some o') :
    o.service.step x = some o'.service ∧ o'.handle = handle := by
  obtain ⟨s, hs, rfl⟩ := Option.map_eq_some_iff.1 h
  exact ⟨hs, rfl⟩

/-- What a move does: it is one of the service, or leaves that alone; and it ends a wait only with what the
service came to. -/
def Does (o : Owned) (m : Move) (o' : Owned) : Prop :=
  (∃ x, m.inner? = some x ∧ o.service.step x = some o'.service ∧
      (o'.handle = o.handle ∨ ∀ r, o'.handle ≠ .returned r)) ∨
    m.inner? = none ∧ o'.service = o.service ∧ ∀ r, o'.handle = .returned r → o.service.stage.outcome? = some r

theorem does_of_withService {x : Service.Move} {handle : Handle} (hm : m.inner? = some x)
    (hh : ∀ r, handle ≠ .returned r) (h : o.withService x handle = some o') : Does o m o' := by
  obtain ⟨hs, rfl⟩ := withService_eq_some h
  exact Or.inl ⟨x, hm, hs, Or.inr hh⟩

theorem does_of_collect (hm : m.inner? = none)
    (h : (o.service.stage.outcome?.map fun r => { o with handle := .returned r }) = some o') : Does o m o' := by
  obtain ⟨r, hr, rfl⟩ := Option.map_eq_some_iff.1 h
  refine Or.inr ⟨hm, rfl, fun r' hr' => ?_⟩
  rw [hr, Handle.returned.inj hr']

theorem does_of_step (h : o.step m = some o') : Does o m o' := by
  unfold step at h
  split at h
  · rename_i x
    split at h
    · cases h
    · obtain ⟨hs, hh⟩ := withService_eq_some h
      exact Or.inl ⟨x, rfl, hs, Or.inl hh⟩
  · exact does_of_withService rfl (by simp) h
  · split at h
    · obtain rfl := Option.some.inj h
      exact Or.inr ⟨rfl, rfl, by simp⟩
    · cases h
  · split at h
    · obtain rfl := Option.some.inj h
      exact Or.inr ⟨rfl, rfl, by simp⟩
    · cases h
  · exact does_of_withService rfl (by simp) h
  · exact does_of_collect rfl h
  · exact does_of_collect rfl h
  · exact does_of_withService rfl (by simp) h
  · exact does_of_withService rfl (by simp) h
  · exact does_of_withService rfl (by simp) h
  · cases h

/-- What was returned is what the service came to. -/
def Honest (o : Owned) : Prop := ∀ r, o.handle = .returned r → o.service.stage.outcome? = some r

theorem Honest.step (h : Honest o) (hs : o.step m = some o') : Honest o' := by
  rcases does_of_step hs with ⟨x, -, hx, hh | hh⟩ | ⟨-, hsame, hr⟩
  · intro r hret
    rw [hh] at hret
    obtain ⟨lost, hst, rfl⟩ := Service.outcome?_eq_some_iff.1 (h r hret)
    exact Service.outcome?_eq_some_iff.2 ⟨lost, Service.finished_step hst hx, rfl⟩
  · exact fun r hret => absurd hret (hh r)
  · rw [Honest, hsame]
    exact hr

/-- A run is one of the service within. -/
theorem inner_run : ∀ {ms : List Move} {o o' : Owned}, Honest o → o.run ms = some o' →
    o.service.run (inner ms) = some o'.service ∧ Honest o'
  | [], o, o', h, hr => by
    obtain rfl := Option.some.inj hr
    exact ⟨rfl, h⟩
  | m :: ms, o, o', h, hr => by
    obtain ⟨o₁, hs, hr⟩ := Option.bind_eq_some_iff.1 hr
    obtain ⟨hrest, hhon⟩ := inner_run (h.step hs) hr
    refine ⟨?_, hhon⟩
    rcases does_of_step hs with ⟨x, hx, hstep, -⟩ | ⟨hx, hsame, -⟩
    · rw [inner, List.filterMap_cons_some hx, Service.run, hstep]
      exact hrest
    · rw [inner, List.filterMap_cons_none hx, ← hsame]
      exact hrest

/-- Moves of the service that do not need the handle can be made whoever has it. -/
theorem run_inside (handle : Handle) : ∀ {ms : List Service.Move} {s s' : Service},
    (∀ m ∈ ms, ∀ x, m ≠ .outside x) → s.run ms = some s' →
    (⟨s, handle⟩ : Owned).run (ms.map .inside) = some ⟨s', handle⟩
  | [], s, s', _, hr => by
    obtain rfl := Option.some.inj hr
    rfl
  | m :: ms, s, s', hin, hr => by
    obtain ⟨s₁, hs, hr⟩ := Option.bind_eq_some_iff.1 hr
    have hfree : needsHandle m = false := by
      cases m with
      | outside x => exact absurd rfl (hin _ (List.mem_cons_self ..) x)
      | _ => rfl
    have hrest := run_inside handle (fun m' hm' => hin m' (List.mem_cons_of_mem _ hm')) hr
    simp only [List.map_cons, run, step, hfree, withService, hs]
    exact hrest

theorem isRun : IsRun step run := ⟨fun _ => rfl, fun _ _ _ => rfl⟩

/-! ### The course -/

/-- The phases are published in their order, by whether the start fails, and none after the end. -/
structure InOrder (rules : List Rule) (ms : List Service.Move) (o : Owned) : Prop where
  failed : (∃ m ∈ ms, m.Fails rules) → o.service.published <+: [.idle, .authenticating, .stopped]
  started : (¬ ∃ m ∈ ms, m.Fails rules) →
    o.service.published <+: [.idle, .authenticating, .running, .draining, .stopped]
  final : .stopped ∈ o.service.published →
    ∀ more o', o.run more = some o' → o'.service.published = o.service.published

/-- The session is closed once if there is one: with no listener open, and before the end is published, which is
then all that is. -/
structure ClosedOnce (ms : List Service.Move) (o : Owned) : Prop where
  atEnd : .stopped ∈ o.service.published → .start (.established (.ok ())) ∈ ms → o.service.closings = 1
  never : .start (.established (.ok ())) ∉ ms → o.service.closings = 0
  atMost : o.service.closings ≤ 1
  closing : ∀ m o', o.step m = some o' → o'.service.closings ≠ o.service.closings →
    .start (.established (.ok ())) ∈ ms ∧ o.service.closings = 0 ∧ .stopped ∉ o.service.published ∧
      ∀ a ∈ o.service.acceptors, a.isOpen = false
  closed : o.service.closings = 1 → ∀ more o', o.run more = some o' →
    o'.service.published = o.service.published ∨
      .stopped ∉ o.service.published ∧ o'.service.published = o.service.published ++ [.stopped]

/-- A wait for the end can always return, and what it returns tells why the service stopped running. -/
structure Answered (ms : List Service.Move) (o : Owned) : Prop where
  lost : ∀ r, o.handle = .returned r →
    (r = .error (.transportFailure "gateway connection closed") ↔ Service.LeftFor true ms)
  asked : ∀ r, o.handle = .returned r → (r = .ok () ↔ Service.LeftFor false ms)
  returns : ∀ lost, Service.LeftFor lost ms → o.handle = .waiting ∨ o.handle = .watching →
    ∃ more o', o.run more = some o' ∧ o'.handle = .returned (Service.answer lost)

section Course

variable {rules : List Rule} {limits : Limits} {parts : List Service.Move}

theorem inOrder (h : (Service.forRules rules limits).run parts = some o.service) (hh : Honest o) :
    InOrder rules parts o := by
  have hlaw := Service.lawful_of_run h
  have hfail := (Service.recorded_of_run h).failing
  refine ⟨?_, ?_, ?_⟩
  · intro hf
    exact hlaw.published_of_failing (hfail.2 hf)
  · intro hf
    refine hlaw.published_of_not_failing ?_
    rw [← Bool.not_eq_true, hfail]
    exact hf
  · intro hend more o' hr
    rcases hlaw.parted_run (hlaw.isParted_of_stopped hend) (inner_run hh hr).1 with hsame | ⟨hn, -⟩
    · exact hsame
    · exact absurd hend hn

theorem closedOnce (h : (Service.forRules rules limits).run parts = some o.service) (hh : Honest o) :
    ClosedOnce parts o := by
  have hlaw := Service.lawful_of_run h
  have hses := (Service.recorded_of_run h).session
  refine ⟨?_, ?_, hlaw.closings_le_one, ?_, ?_⟩
  · intro hend hopened
    exact hlaw.closings_eq_one_iff.2 ⟨hlaw.isParted_of_stopped hend, hses.2 hopened⟩
  · intro hnone
    rw [← hses] at hnone
    rw [hlaw.closings]
    exact if_neg fun hboth => hnone hboth.2
  · intro m o' hs hne
    rcases does_of_step hs with ⟨x, -, hx, -⟩ | ⟨-, hsame, -⟩
    · obtain ⟨hthere, hzero, hn, hshut⟩ := hlaw.closing_step hx hne
      exact ⟨hses.1 hthere, hzero, hn, hshut⟩
    · rw [hsame] at hne
      exact absurd rfl hne
  · intro hone more o' hr
    exact hlaw.parted_run (hlaw.closings_eq_one_iff.1 hone).1 (inner_run hh hr).1

theorem answered (h : (Service.forRules rules limits).run parts = some o.service) (hh : Honest o) :
    Answered parts o := by
  have hwhy : ∀ r, o.handle = .returned r → ∃ lost, r = Service.answer lost ∧
      ∀ lost', Service.LeftFor lost' parts ↔ lost = lost' := by
    intro r hret
    obtain ⟨lost, hst, rfl⟩ := Service.outcome?_eq_some_iff.1 (hh r hret)
    refine ⟨lost, rfl, fun lost' => ?_⟩
    rw [Service.leftFor_iff h, hst]
    simp [Stage.lost?]
  refine ⟨?_, ?_, ?_⟩
  · intro r hret
    obtain ⟨lost, rfl, hleft⟩ := hwhy r hret
    rw [hleft]
    cases lost
    all_goals simp [Service.answer]
  · intro r hret
    obtain ⟨lost, rfl, hleft⟩ := hwhy r hret
    rw [hleft]
    cases lost
    all_goals simp [Service.answer]
  · intro lost hleft hwait
    obtain ⟨ms, s', hin, hr, hst⟩ := (Service.lawful_of_run h).finishes ((Service.leftFor_iff h).1 hleft)
    have hout : s'.stage.outcome? = some (Service.answer lost) := Service.outcome?_eq_some_iff.2 ⟨lost, hst, rfl⟩
    refine ⟨ms.map .inside ++ [.collect], ⟨s', .returned (Service.answer lost)⟩, ?_, rfl⟩
    rw [isRun.append, show o = ⟨o.service, o.handle⟩ from rfl, run_inside o.handle hin hr]
    rcases hwait with hwait | hwait
    · simp [run, step, hwait, hout]
    · simp [run, step, hwait, hout]

end Course

/-- **The course of a service**, whoever does what in whatever order. -/
theorem course (rules : List Rule) (limits : Limits) (ms : List Move) (o : Owned)
    (h : (forRules rules limits).run ms = some o) :
    InOrder rules (inner ms) o ∧ ClosedOnce (inner ms) o ∧ Answered (inner ms) o := by
  have hstart : Honest (forRules rules limits) := fun r hret => by cases hret
  obtain ⟨hr, hh⟩ := inner_run hstart h
  exact ⟨inOrder hr hh, closedOnce hr hh, answered hr hh⟩

/-- The gateway goes away, and only then comes the request to stop that is waited for. -/
def lostThenAsked : List Move :=
  [.inside (.start .authenticate), .inside (.start (.established (.ok ()))),
    .inside (.start (.bind (Listener.onHost []))), .inside (.start .announce), .watch,
    .inside (.outside .loseSession), .inside (.stop (.drain true)), .request, .inside (.stop .stopAccepting),
    .inside (.accept 0 .start), .inside (.accept 0 .takePermit), .inside (.accept 0 .quit),
    .inside (.stop .join), .inside (.stop .idle), .inside (.stop .closeSession), .inside (.stop .announce),
    .inside (.stop .leave), .collect]

theorem course_lostThenAsked :
    ∃ o, (forRules [⟨"127.0.0.1", 8080, "db", 5432⟩] {}).run lostThenAsked = some o ∧
      o.service.published = [.idle, .authenticating, .running, .draining, .stopped] ∧
      o.service.closings = 1 ∧ Answered (inner lostThenAsked) o := by
  have hend : ((forRules [⟨"127.0.0.1", 8080, "db", 5432⟩] {}).run lostThenAsked).map
      (fun o => (o.service.published, o.service.closings)) =
      some ([.idle, .authenticating, .running, .draining, .stopped], 1) := by
    decide +kernel
  obtain ⟨o, ho, hshown⟩ := Option.map_eq_some_iff.1 hend
  obtain ⟨hpub, hcl⟩ := Prod.mk.inj hshown
  exact ⟨o, ho, hpub, hcl, (course _ _ _ o ho).2.2⟩

end Owned

end SshTunnel

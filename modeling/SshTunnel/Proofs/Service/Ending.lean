import SshTunnel.Proofs.Service.LifeCycle

/-!
The end of a service.  Its session is closed at most once, and after that nothing but the end is published.
-/

namespace SshTunnel

namespace Service

variable {s s' : Service} {m : Move} {ms : List Move}

/-! ### What was published -/

theorem Lawful.published_of_failing (h : Lawful s) (hf : s.stage.isFailing = true) :
    s.published <+: [.idle, .authenticating, .stopped] := by
  rw [h.published]
  cases hs : s.stage with
  | unbound f => exact ⟨[.stopped], rfl⟩
  | leaving f => exact ⟨[.stopped], rfl⟩
  | failed f => exact ⟨[], rfl⟩
  | _ =>
    rw [hs] at hf
    cases hf

theorem Lawful.published_of_not_failing (h : Lawful s) (hf : s.stage.isFailing = false) :
    s.published <+: [.idle, .authenticating, .running, .draining, .stopped] := by
  rw [h.published]
  cases hs : s.stage with
  | idle => exact ⟨[.authenticating, .running, .draining, .stopped], rfl⟩
  | authenticating => exact ⟨[.running, .draining, .stopped], rfl⟩
  | binding => exact ⟨[.running, .draining, .stopped], rfl⟩
  | launching => exact ⟨[.running, .draining, .stopped], rfl⟩
  | running => exact ⟨[.draining, .stopped], rfl⟩
  | draining lost d =>
    by_cases hd : d = .stopped
    · subst hd
      exact ⟨[], rfl⟩
    · refine ⟨[.stopped], ?_⟩
      cases d
      all_goals first | rfl | exact absurd rfl hd
  | finished lost => exact ⟨[], rfl⟩
  | _ =>
    rw [hs] at hf
    cases hf

theorem Lawful.isParted_of_stopped (h : Lawful s) (hp : .stopped ∈ s.published) : s.stage.isParted = true := by
  rw [h.published] at hp
  cases hs : s.stage with
  | leaving f => rfl
  | failed f => rfl
  | finished lost => rfl
  | draining lost d =>
    rw [hs] at hp
    by_contra hnot
    rw [history_draining (by simpa [Stage.isParted] using hnot)] at hp
    simp at hp
  | _ =>
    rw [hs] at hp
    simp [Stage.history] at hp

/-! ### The session is closed -/

/-- Once the session is closed nothing but the end is published, and that once. -/
theorem Lawful.parted_step (h : Lawful s) (hp : s.stage.isParted = true) (hs : s.step m = some s') :
    s'.stage.isParted = true ∧
      (s'.published = s.published ∨ .stopped ∉ s.published ∧ s'.published = s.published ++ [.stopped]) := by
  have hnew : .stopped ∉ s.stage.history → .stopped ∉ s.published := fun hn => by rwa [h.published]
  rcases step_cases hs with ⟨x, rfl, hx⟩ | ⟨x, rfl, hx⟩ | ⟨-, -, hk⟩
  · cases hx with
    | giveUp f hst =>
      rw [hst] at hnew
      exact ⟨rfl, Or.inr ⟨hnew (by simp [Stage.history]), rfl⟩⟩
    | _ => simp_all [Stage.isParted]
  · cases hx with
    | announce lost hst =>
      rw [hst] at hnew
      exact ⟨rfl, Or.inr ⟨hnew (by simp [Stage.history]), rfl⟩⟩
    | leave lost hst => exact ⟨rfl, Or.inl rfl⟩
    | idle lost d next hst hd hidle =>
      rw [hst, Stage.isParted, (isJoined_of_afterWait hd).1.2] at hp
      cases hp
    | overdue lost d next hst hd hbusy =>
      rw [hst, Stage.isParted, (isJoined_of_afterWait hd).1.2] at hp
      cases hp
    | _ => simp_all [Stage.isParted, Drain.isParted]
  · exact ⟨by rw [hk.stage, hp], Or.inl hk.published⟩

theorem Lawful.parted_run : ∀ {ms : List Move} {s s' : Service}, Lawful s → s.stage.isParted = true →
    s.run ms = some s' →
    s'.published = s.published ∨ .stopped ∉ s.published ∧ s'.published = s.published ++ [.stopped]
  | [], s, s', _, _, hr => by
    obtain rfl := Option.some.inj hr
    exact Or.inl rfl
  | m :: ms, s, s', h, hp, hr => by
    obtain ⟨s₁, hs, hr⟩ := Option.bind_eq_some_iff.1 hr
    obtain ⟨hp₁, hpub₁⟩ := h.parted_step hp hs
    have hrest := (h.step hs).parted_run hp₁ hr
    rcases hpub₁ with hsame | ⟨hn, hend⟩
    · rwa [hsame] at hrest
    · rcases hrest with hsame | ⟨hn', -⟩
      · exact Or.inr ⟨hn, hsame.trans hend⟩
      · rw [hend] at hn'
        exact absurd (List.mem_append_right _ (List.mem_singleton_self _)) hn'

theorem Lawful.closings_eq_one_iff (h : Lawful s) :
    s.closings = 1 ↔ s.stage.isParted = true ∧ s.hasSession = true := by
  rw [h.closings]
  split
  · rename_i hboth
    simp [hboth]
  · rename_i hnot
    simp [hnot]

theorem Lawful.closings_le_one (h : Lawful s) : s.closings ≤ 1 := by
  rw [h.closings]
  split
  · exact Nat.le_refl 1
  · exact Nat.zero_le 1

theorem Lawful.closings_eq_zero (h : Lawful s) (hp : s.stage.isParted = false) : s.closings = 0 := by
  rw [h.closings, hp]
  rfl

/-- The session is closed where there is one, once, with no listener open and before the end is published. -/
theorem Lawful.closing_step (h : Lawful s) (hs : s.step m = some s') (hne : s'.closings ≠ s.closings) :
    s.hasSession = true ∧ s.closings = 0 ∧ .stopped ∉ s.published ∧ ∀ a ∈ s.acceptors, a.isOpen = false := by
  have hses := h.session
  rcases step_cases hs with ⟨x, rfl, hx⟩ | ⟨x, rfl, hx⟩ | ⟨-, -, hk⟩
  · cases hx with
    | close f hst =>
      rw [hst] at hses
      refine ⟨hses, h.closings_eq_zero (by rw [hst]; rfl), ?_, h.shut (by rw [hst]; rfl)⟩
      rw [h.published, hst]
      simp [Stage.history]
    | _ => exact absurd rfl hne
  · cases hx with
    | close lost hst =>
      rw [hst] at hses
      refine ⟨hses, h.closings_eq_zero (by rw [hst]; rfl), ?_, h.shut (by rw [hst]; rfl)⟩
      rw [h.published, hst]
      simp [Stage.history]
    | _ => exact absurd rfl hne
  · exact absurd hk.closings hne

end Service

end SshTunnel

import SshTunnel.Proofs.Rule.Faults
import SshTunnel.Proofs.Run.Effects
import SshTunnel.Proofs.Service.Setup

/-!
Whether settings that pass their check can be served.  An acceptor makes as many permits as the cap says when it
starts, and breaks if that is more than can be made; but the check of the settings only refuses a cap of nothing.
So the cap decides.
-/

namespace SshTunnel

/-! ### One acceptor -/

namespace Acceptor

variable {a a' : Acceptor} {m : Move} {stopping : Bool}

/-- As many permits as the cap says can be made. -/
def Fits (cap : Option Nat) : Prop := ∀ n, cap = some n → n ≤ maxPermits

/-- It has not broken, and it has not ended unless it was told to. -/
structure Serves (stopping : Bool) (a : Acceptor) : Prop where
  unbroken : a.stage ≠ .broken
  told : a.stage = .ended → stopping = true

theorem serves_of_isOpen (h : a.isOpen = true) : a.Serves stopping := by
  have hstages : a.stage ≠ .ended ∧ a.stage ≠ .broken := by simpa [isOpen] using h
  exact ⟨hstages.2, fun hended => absurd hended hstages.1⟩

theorem Serves.isOpen (h : a.Serves false) : a.isOpen = true := by
  have hended : a.stage ≠ .ended := fun hended => by cases h.told hended
  simp [Acceptor.isOpen, hended, h.unbroken]

theorem start_stage (h : Fits a.cap) : a.start.stage = .ready := by
  unfold start
  split
  · rfl
  · rename_i n hcap
    rw [if_neg (Nat.not_lt.2 (h n hcap))]

theorem start_stage_of_not_fits {n : Nat} (hcap : a.cap = some n) (h : maxPermits < n) :
    a.start.stage = .broken := by
  simp only [start, hcap, if_pos h]

/-- Of the moves of an acceptor only the first can break it, and only the last ends it. -/
theorem Steps.serves (h : a.Steps stopping m a') (hfits : Fits a.cap) : a'.Serves stopping := by
  cases h with
  | start hs => exact serves_of_isOpen (by simp [isOpen, start_stage hfits])
  | quit hs hstop => exact ⟨nofun, fun _ => hstop⟩
  | _ => exact serves_of_isOpen rfl

end Acceptor

/-! ### A service -/

namespace Service

variable {s s' : Service} {m : Move} {ms : List Move} {rules : List Rule} {limits : Limits}

/-- Whoever was told to stop is not told to go on. -/
theorem isStopping_of_step (h : s.step m = some s') (hstop : s.isStopping = true) : s'.isStopping = true := by
  rcases step_cases h with ⟨x, -, hx⟩ | ⟨x, -, hx⟩ | ⟨-, -, hk⟩
  · cases hx
    all_goals simp_all [isStopping, publish, Stage.outcome?]
  · cases hx
    all_goals simp_all [isStopping, publish, abortAll, Stage.outcome?]
  · rw [isStopping, hk.stopping, hk.stage]
    exact hstop

/-- Where the acceptors come from that there are after a move. -/
theorem acceptor_of_step (h : s.step m = some s') {a' : Acceptor} (ha' : a' ∈ s'.acceptors) :
    (∃ a ∈ s.acceptors, a'.stage = a.stage) ∨ (∃ a ∈ s.acceptors, ∃ am, a.Steps s.isStopping am a') ∨
      a'.isOpen = true := by
  have hsame : ∀ {a}, a ∈ s.acceptors → (∃ a₀ ∈ s.acceptors, a.stage = a₀.stage) ∨
      (∃ a₀ ∈ s.acceptors, ∃ am, a₀.Steps s.isStopping am a) ∨ a.isOpen = true :=
    fun ha => Or.inl ⟨_, ha, rfl⟩
  -- most moves set the state of one acceptor
  have hset : ∀ {i : Nat} {a b : Acceptor}, a' ∈ s.acceptors.set i b → s.acceptors[i]? = some a →
      (b.stage = a.stage ∨ (∃ am, a.Steps s.isStopping am b) ∨ b.isOpen = true) →
      (∃ a ∈ s.acceptors, a'.stage = a.stage) ∨ (∃ a ∈ s.acceptors, ∃ am, a.Steps s.isStopping am a') ∨
        a'.isOpen = true := by
    intro i a b hmem ha hb
    rcases List.mem_or_eq_of_mem_set hmem with hold | rfl
    · exact hsame hold
    · rcases hb with hstage | hstep | hopen
      · exact Or.inl ⟨a, List.mem_of_getElem? ha, hstage⟩
      · exact Or.inr (Or.inl ⟨a, List.mem_of_getElem? ha, hstep⟩)
      · exact Or.inr (Or.inr hopen)
  cases effect_of_step h with
  | aside hm hparts => exact hsame (hparts.acceptors ▸ ha')
  | bound system ls hst hls =>
    obtain ⟨l, -, rfl⟩ := List.mem_map.1 ha'
    exact Or.inr (Or.inr rfl)
  | connect i a peer ha hopen => exact hset ha' ha (Or.inl rfl)
  | accept i a b am ha hstep => exact hset ha' ha (Or.inr (Or.inl ⟨am, hstep⟩))
  | number i a c ha hst => exact hset ha' ha (Or.inr (Or.inr rfl))
  | enter i a c id ha hst => exact hset ha' ha (Or.inr (Or.inr rfl))
  | count i a c id ha hst => exact hset ha' ha (Or.inr (Or.inr rfl))
  | spawn i a c id ha hst => exact hset ha' ha (Or.inr (Or.inr rfl))
  | note i a id task ha hst => exact hset ha' ha (Or.inr (Or.inr rfl))
  | returnPermit t c a hc ha => exact hset ha' ha (Or.inl rfl)
  | _ => exact hsame ha'

theorem serves_step (hfits : ∀ a ∈ s.acceptors, Acceptor.Fits a.cap)
    (h : ∀ a ∈ s.acceptors, a.Serves s.isStopping) (hs : s.step m = some s') :
    ∀ a ∈ s'.acceptors, a.Serves s'.isStopping := by
  intro a' ha'
  rcases acceptor_of_step hs ha' with ⟨a, ha, hstage⟩ | ⟨a, ha, am, hstep⟩ | hopen
  · obtain ⟨hunbroken, htold⟩ := h a ha
    rw [← hstage] at hunbroken htold
    exact ⟨hunbroken, fun hended => isStopping_of_step hs (htold hended)⟩
  · obtain ⟨hunbroken, htold⟩ := hstep.serves (hfits a ha)
    exact ⟨hunbroken, fun hended => isStopping_of_step hs (htold hended)⟩
  · exact Acceptor.serves_of_isOpen hopen

theorem fits_of_run (hfits : Acceptor.Fits limits.maxConnections) (h : (forRules rules limits).run ms = some s) :
    ∀ a ∈ s.acceptors, Acceptor.Fits a.cap := by
  intro a ha
  rw [(placed_of_run h).caps a ha, limits_of_run h]
  exact hfits

theorem serves_of_run (hfits : Acceptor.Fits limits.maxConnections) (h : (forRules rules limits).run ms = some s) :
    ∀ a ∈ s.acceptors, a.Serves s.isStopping := by
  refine run_induction (P := fun _ s => ∀ a ∈ s.acceptors, a.Serves s.isStopping) ?_ ?_ h
  · exact fun a ha => absurd ha List.not_mem_nil
  · exact fun _ _ _ _ hrun hserves hs => serves_step (fits_of_run hfits hrun) hserves hs

/-- Some rules can be served: in every run no acceptor breaks, each gets ready for clients, and its listener is
open until it is told to stop. -/
structure Servable (rules : List Rule) (limits : Limits) : Prop where
  unbroken : ∀ ms s, (forRules rules limits).run ms = some s → ∀ a ∈ s.acceptors, a.stage ≠ .broken
  getsReady : ∀ ms s, (forRules rules limits).run ms = some s → ∀ i a, s.acceptors[i]? = some a →
    a.stage = .starting → ∃ s' a', s.step (.accept i .start) = some s' ∧ s'.acceptors[i]? = some a' ∧
      a'.stage = .ready
  staysOpen : ∀ ms s, (forRules rules limits).run ms = some s → s.isStopping = false →
    ∀ a ∈ s.acceptors, a.isOpen = true

theorem step_start {i : Nat} {a : Acceptor} (ha : s.acceptors[i]? = some a) (hstage : a.stage = .starting) :
    s.step (.accept i .start) = some (s.setAcceptor i a.start) := by
  simp [step, accept, ha, Acceptor.step, hstage]

theorem servable_of_fits (rules : List Rule) (hfits : Acceptor.Fits limits.maxConnections) :
    Servable rules limits := by
  refine ⟨fun ms s h a ha => (serves_of_run hfits h a ha).unbroken, ?_, ?_⟩
  · intro ms s h i a ha hstage
    refine ⟨_, a.start, step_start ha hstage, getElem?_set_of_getElem? ha _, ?_⟩
    exact Acceptor.start_stage (fits_of_run hfits h a (List.mem_of_getElem? ha))
  · intro ms s h hgoing a ha
    have hserves := serves_of_run hfits h a ha
    rw [hgoing] at hserves
    exact hserves.isOpen

/-! ### A cap that is too much -/

/-- A system that refuses nobody. -/
def willing : Listener.System := fun _ r => .ok ⟨r.bind, r.localPort⟩

theorem exists_bound (rules : List Rule) : ∃ ls, (Listener.bindAll willing ⟨rules⟩).result = .ok ls := by
  cases h : (Listener.bindAll willing ⟨rules⟩).result with
  | ok ls => exact ⟨ls, rfl⟩
  | error f =>
    obtain ⟨_, _, _, _, _, -, -, hrefused⟩ := Listener.refuses_of_error h
    cases hrefused

/-- The moves from the start to running. -/
def untilRunning : List Move :=
  [.start .authenticate, .start (.established (.ok ())), .start (.bind willing), .start .announce]

theorem exists_running (rules : List Rule) (limits : Limits) : ∃ s, (forRules rules limits).run untilRunning = some s ∧
    s.stage = .running ∧ s.acceptors.length = rules.length ∧
    ∀ a ∈ s.acceptors, a = { cap := limits.maxConnections } := by
  obtain ⟨ls, hls⟩ := exists_bound rules
  have hrun : (forRules rules limits).run untilRunning = some
      { forRules rules limits with
        stage := .running, published := [.idle, .authenticating, .running], hasSession := true, listeners := ls,
        acceptors := ls.map fun _ => { cap := limits.maxConnections } } := by
    simp [untilRunning, run, step, start, forRules, publish, hls]
  refine ⟨_, hrun, rfl, ?_, ?_⟩
  · exact (List.length_map _).trans (Listener.opens_of_bindAll hls).length
  · intro a ha
    obtain ⟨l, -, rfl⟩ := List.mem_map.1 ha
    rfl

theorem fits_of_servable (hrules : rules ≠ []) (h : Servable rules limits) : Acceptor.Fits limits.maxConnections := by
  intro n hcap
  by_contra hmore
  -- the first acceptor breaks when it starts, right after the service runs
  obtain ⟨s, hrun, -, hlength, hfresh⟩ := exists_running rules limits
  have hfirst : 0 < s.acceptors.length := by
    rw [hlength]
    exact List.length_pos_of_ne_nil hrules
  have ha := List.getElem?_eq_getElem hfirst
  have hstarting := hfresh _ (List.getElem_mem hfirst)
  rw [hstarting] at ha
  have hbroken := Acceptor.start_stage_of_not_fits (a := { cap := limits.maxConnections }) hcap (Nat.not_le.1 hmore)
  exact h.unbroken _ _ (run_snoc hrun (step_start ha rfl)) _
    (List.mem_of_getElem? (getElem?_set_of_getElem? ha _)) hbroken

/-! ### Settings -/

/-- **Settings that pass the check can be served if, and only if, permits can be made for their cap.** -/
theorem servable_iff_of_check (settings : Settings) (h : settings.check = .ok ()) :
    ∃ rules, settings.ruleSet = .ok rules ∧ (Servable rules.rules settings.limits ↔
      ∀ n, settings.maxConnections = some n → n.toNat ≤ Acceptor.maxPermits) := by
  obtain ⟨rules, hrules⟩ := Run.exists_ruleSet_of_check h
  have hfits : Acceptor.Fits settings.limits.maxConnections ↔
      ∀ n, settings.maxConnections = some n → n.toNat ≤ Acceptor.maxPermits := by
    simp [Acceptor.Fits, Settings.limits]
  refine ⟨rules, hrules, ?_⟩
  rw [← hfits]
  exact ⟨fits_of_servable (RuleSet.ne_nil_of_parse hrules), servable_of_fits rules.rules⟩

/-- Settings with one rule and a cap. -/
def cappedAt (cap : UInt64) : Settings where
  gateway := { host := "bastion", user := "deploy", password := some "hunter2" }
  rules := ["8080:db:5432"]
  maxConnections := some cap

/-- The highest cap that works. -/
theorem servable_highest_cap : (cappedAt 2305843009213693951).check = .ok () ∧
    Servable [⟨"127.0.0.1", 8080, "db", 5432⟩] (cappedAt 2305843009213693951).limits := by
  have hcheck : (cappedAt 2305843009213693951).check = .ok () := by decide +kernel
  have hparse : (cappedAt 2305843009213693951).ruleSet = .ok ⟨[⟨"127.0.0.1", 8080, "db", 5432⟩]⟩ := by decide +kernel
  obtain ⟨rules, hrules, hiff⟩ := servable_iff_of_check _ hcheck
  obtain rfl := Except.ok.inj (hparse.symm.trans hrules)
  refine ⟨hcheck, hiff.2 fun n hn => ?_⟩
  obtain rfl := Option.some.inj hn
  decide +kernel

/-- One more, and the listener is closed while the service runs and nobody wants it to stop. -/
theorem breaks_above_highest_cap : (cappedAt 2305843009213693952).check = .ok () ∧
    (cappedAt 2305843009213693952).ruleSet = .ok ⟨[⟨"127.0.0.1", 8080, "db", 5432⟩]⟩ ∧
    ∃ s, (forRules [⟨"127.0.0.1", 8080, "db", 5432⟩] (cappedAt 2305843009213693952).limits).run
        (untilRunning ++ [.accept 0 .start]) = some s ∧
      s.phase = .running ∧ s.stopAsked = false ∧ s.isStopping = false ∧
      ∃ a, s.acceptors[0]? = some a ∧ a.stage = .broken ∧ a.isOpen = false := by
  refine ⟨by decide +kernel, by decide +kernel, _, rfl, rfl, rfl, rfl, _, rfl, ?_, ?_⟩
  · decide +kernel
  · decide +kernel

end Service

end SshTunnel

import Mathlib.Tactic.Common
import SshTunnel.Proofs.Relay.Flow
import SshTunnel.Proofs.Runs

/-!
The two directions of a connection, from the opening of the channel to the result.  Neither begins before the
channel is open, the result waits for both, and one that outlives the other is told to close when its time is up.
-/

namespace SshTunnel

/-! ### One direction -/

namespace Flow

variable {f f' : Flow} {m : Move}

/-- What is over does not go on. -/
theorem not_isOver_of_step (h : f.step m = some f') : f.isOver = false := by
  cases steps_of_step h with
  | read chunk hst hsome hsize => simp [isOver, outcome?, hst]
  | deliver n rest size hst hpos hle => simp [isOver, outcome?, hst]
  | close m error hread hst =>
    rcases hst with hst | ⟨rest, size, hst⟩
    · simp [isOver, outcome?, hst]
    · simp [isOver, outcome?, hst]
  | shut error hst => simp [isOver, outcome?, hst]

/-- Nothing is over before its sink is shut down. -/
theorem shut_of_isOver (h : f.step m = some f') (hover : f'.isOver = true) : m = .shut := by
  cases steps_of_step h with
  | read chunk hst hsome hsize => cases hover
  | deliver n rest size hst hpos hle =>
    by_cases hfull : n = rest.length
    · simp [isOver, outcome?, deliver, hfull] at hover
    · simp [isOver, outcome?, deliver, hfull] at hover
  | close m error hread hst => cases hover
  | shut error hst => rfl

end Flow

/-! ### Pairs -/

namespace Bridge

variable {b b' : Bridge} {force : Bool} {m : Move} {w : Way} {f : Flow}

@[simp] theorem setFlow_first : (b.setFlow w f).first = b.first := by
  cases w
  · rfl
  · rfl

@[simp] theorem setFlow_closed : (b.setFlow w f).closed = b.closed := by
  cases w
  · rfl
  · rfl

@[simp] theorem setFlow_closings : (b.setFlow w f).closings = b.closings := by
  cases w
  · rfl
  · rfl

/-- Closing has an effect once, and after one direction is over. -/
structure Sound (b : Bridge) : Prop where
  closings : b.closings = if b.closed then 1 else 0
  first : ∀ w, b.first = some w → (b.flow w).isOver = true
  told : b.closed = true → b.first.isSome = true

theorem sound_fresh : Sound {} := ⟨rfl, nofun, nofun⟩

theorem Sound.close (h : b.Sound) (hfirst : b.first.isSome = true) : b.close.Sound := by
  refine ⟨?_, fun w hw => ?_, fun _ => hfirst⟩
  · dsimp only [Bridge.close]
    rw [h.closings]
    cases b.closed
    · rfl
    · rfl
  · rw [flow_close]
    exact h.first w hw

theorem Sound.step (h : b.Sound) (hs : b.Steps force m b') : b'.Sound := by
  cases hs with
  | flow w fm f hmay hstep =>
    refine ⟨?_, fun v hv => ?_, ?_⟩
    · rw [setFlow_closings, setFlow_closed]
      exact h.closings
    · rw [setFlow_first] at hv
      have hover := h.first v hv
      by_cases hwv : w = v
      · -- the one that is over does not go on
        subst hwv
        rw [Flow.not_isOver_of_step hstep] at hover
        cases hover
      · rw [flow_setFlow_of_ne hwv]
        exact hover
    · rw [setFlow_closed, setFlow_first]
      exact h.told
  | notice w hfirst hover =>
    refine ⟨h.closings, fun v hv => ?_, fun _ => rfl⟩
    obtain rfl := Option.some.inj hv
    cases w
    · exact hover
    · exact hover
  | graceOver w hfirst hopen hother => exact h.close (by rw [hfirst]; rfl)

end Bridge

namespace Forwarder

variable {target : Target} {force : Bool} {f f' : Forwarder} {m : Move} {w : Way}

theorem isRun (target : Target) : IsRun (fun f y => f.step target y.1 y.2) (run target) :=
  ⟨fun _ => rfl, fun _ _ _ => rfl⟩

/-! ### What happened before -/

/-- A move of a forwarder: when it was made, and whether everything was told to close by then. -/
structure Stamped where
  time : Nat
  forced : Bool
  move : Move
deriving DecidableEq, Repr

/-- The moves in a row, whatever the time. -/
def follow (target : Target) (f : Forwarder) (zs : List Stamped) : Option Forwarder :=
  run target f (zs.map fun z => (z.forced, z.move))

theorem isRun_follow (target : Target) :
    IsRun (fun f (z : Stamped) => f.step target z.forced z.move) (follow target) :=
  ⟨fun _ => rfl, fun _ _ _ => rfl⟩

variable {zs : List Stamped} {z : Stamped}

/-- Induction over what happened, by the last step. -/
theorem follow_induction {target : Target} {R : List Stamped → Forwarder → Prop} (hinit : R [] dialing)
    (hstep : ∀ zs z f f', follow target dialing zs = some f → R zs f → Steps target z.forced f z.move f' →
      R (zs ++ [z]) f') {zs : List Stamped} {f : Forwarder} (h : follow target dialing zs = some f) : R zs f :=
  (isRun_follow target).induction hinit
    (fun zs z f f' hrun hr hs => hstep zs z f f' hrun hr (steps_of_step hs)) h

/-! ### What a forwarder tells of its moves -/

theorem Steps.isSome_bridge? (h : Steps target force f m f') :
    f'.bridge?.isSome = (f.bridge?.isSome || decide (m = .opened)) := by
  cases h with
  | _ => rfl

theorem isSome_bridge?_of_follow (h : follow target dialing zs = some f) :
    f.bridge?.isSome = zs.any fun z => z.move = .opened := by
  refine follow_induction (R := fun zs f => f.bridge?.isSome = zs.any fun z => z.move = .opened) rfl ?_ h
  intro zs z f f' _ hopened hs
  rw [List.any_append, ← hopened, hs.isSome_bridge?]
  simp

/-- Before the channel is open no direction moves. -/
theorem Steps.flow?_eq_none (h : Steps target force f m f') (hf : f.bridge? = none) (w : Way) : m.flow? w = none := by
  cases h with
  | relay b b' bm h => cases hf
  | _ => rfl

/-- Both are fresh when it is opened. -/
theorem Steps.flow_eq_fresh (h : Steps target force f m f') (hf : f.bridge? = none) (w : Way) : f'.flow w = {} := by
  have hfresh : f.flow w = {} := by
    unfold Forwarder.flow
    rw [hf]
    rfl
  rcases h.flow w with ⟨-, hsame⟩ | ⟨fm, hfm, -⟩
  · rw [hsame, hfresh]
  · rw [h.flow?_eq_none hf w] at hfm
    cases hfm

theorem flow?_eq_none_of_follow (h : follow target dialing zs = some f) (hf : f.bridge? = none) (hz : z ∈ zs)
    (w : Way) : z.move.flow? w = none := by
  refine follow_induction (R := fun zs f => f.bridge? = none → ∀ z ∈ zs, z.move.flow? w = none) ?_ ?_ h hf z hz
  · exact fun _ z hz => by cases hz
  intro zs y f f' _ hold hs hf' z hz
  have hnone : f.bridge? = none := by
    have hsome := hs.isSome_bridge?
    rw [hf'] at hsome
    exact Option.not_isSome_iff_eq_none.1 (by simp [(Bool.or_eq_false_iff.1 hsome.symm).1])
  rcases List.mem_append.1 hz with hz | hz
  · exact hold hnone z hz
  · obtain rfl := List.mem_singleton.1 hz
    exact hs.flow?_eq_none hnone w

theorem Steps.sound {b' : Bridge} (h : Steps target force f m f') (hf : ∀ b, f.bridge? = some b → b.Sound)
    (hb : f'.bridge? = some b') : b'.Sound := by
  cases h with
  | opened =>
    obtain rfl := Option.some.inj hb
    exact Bridge.sound_fresh
  | relay b c bm h =>
    obtain rfl := Option.some.inj hb
    exact (hf b rfl).step h
  | finish b e h =>
    obtain rfl := Option.some.inj hb
    obtain ⟨w, hfirst, -⟩ := Option.bind_eq_some_iff.1 h
    exact (hf b rfl).close (by rw [hfirst]; rfl)
  | _ => cases hb

theorem sound_of_follow {b : Bridge} (h : follow target dialing zs = some f) (hb : f.bridge? = some b) :
    b.Sound := by
  revert b
  refine follow_induction (R := fun _ f => ∀ {b : Bridge}, f.bridge? = some b → b.Sound) ?_ ?_ h
  · exact fun hb => by cases hb
  · exact fun _ _ _ _ _ hsound hs _ hb => hs.sound (fun _ hb => hsound hb) hb

/-- How a forwarder ends that never had a channel. -/
def GivesUp (target : Target) (z : Stamped) (r : Except Failure Unit) : Prop :=
  (∃ e, z.move = .refused e ∧ r = .error e) ∨ (z.move = .tooLate ∧ r = .error (late target)) ∨
    (z.move = .abandon ∧ z.forced = true ∧ r = .ok ())

/-- How a forwarder ends that had one: when both directions are over, with the error of the one that was seen to end
first, or else with that of the other, or well. -/
structure Settles (b : Bridge) (w : Way) (r : Except Failure Unit) : Prop where
  both : ∀ v, (b.flow v).isOver = true
  well : r = .ok () ↔ ∀ v, (b.flow v).outcome? = some none
  first : ∀ e, (b.flow w).outcome? = some (some e) → r = .error (.system e)
  other : ∀ e, (b.flow w).outcome? = some none → (b.flow w.other).outcome? = some (some e) → r = .error (.system e)

theorem settles_of_outcome? {b : Bridge} {e : Option String} (h : b.outcome? = some e) :
    ∃ w, b.first = some w ∧ Settles b w (resultOf e) := by
  -- the outcome is there only when a direction was seen to end and both have come out
  obtain ⟨w, hfirst, h⟩ := Option.bind_eq_some_iff.1 h
  obtain ⟨e₁, h₁, h⟩ := Option.bind_eq_some_iff.1 h
  obtain ⟨e₂, h₂, h⟩ := Option.bind_eq_some_iff.1 h
  obtain rfl := Option.some.inj h
  have heach : ∀ {p : Way → Prop}, p w → p w.other → ∀ v, p v := by
    intro p hw hother v
    by_cases hv : v = w
    · exact hv ▸ hw
    · exact Way.eq_other_of_ne hv ▸ hother
  refine ⟨w, hfirst, ?_⟩
  constructor
  case both => exact heach (by rw [Flow.isOver, h₁]; rfl) (by rw [Flow.isOver, h₂]; rfl)
  case well =>
    constructor
    · intro hwell
      -- the first error there is becomes the answer, so a good answer leaves neither
      cases e₁ with
      | some e => cases hwell
      | none =>
        cases e₂ with
        | some e => cases hwell
        | none => exact heach h₁ h₂
    · intro hnone
      obtain rfl := Option.some.inj (h₁.symm.trans (hnone w))
      obtain rfl := Option.some.inj (h₂.symm.trans (hnone w.other))
      rfl
  case first =>
    intro e he
    obtain rfl := Option.some.inj (h₁.symm.trans he)
    rfl
  case other =>
    intro e hnone he
    obtain rfl := Option.some.inj (h₁.symm.trans hnone)
    obtain rfl := Option.some.inj (h₂.symm.trans he)
    rfl

theorem Settles.close {b : Bridge} {r : Except Failure Unit} (h : Settles b w r) : Settles b.close w r := by
  have hflow : b.close.flow = b.flow := funext (Bridge.flow_close b)
  refine ⟨?_, ?_, ?_, ?_⟩
  · rw [hflow]
    exact h.both
  · rw [hflow]
    exact h.well
  · rw [hflow]
    exact h.first
  · rw [hflow]
    exact h.other

theorem exists_last (h : follow target dialing zs = some f) (hf : f ≠ dialing) :
    ∃ f₀, ∃ z ∈ zs, Steps target z.forced f₀ z.move f := by
  rcases List.eq_nil_or_concat zs with rfl | ⟨zs', z, rfl⟩
  · exact absurd (Option.some.inj h).symm hf
  · rw [List.concat_eq_append] at h ⊢
    obtain ⟨f₀, -, hs⟩ := (isRun_follow target).snoc_inv h
    exact ⟨f₀, z, by simp, steps_of_step hs⟩

theorem givesUp_of_follow {r : Except Failure Unit} (h : follow target dialing zs = some (ended none r)) :
    ∃ z ∈ zs, GivesUp target z r := by
  obtain ⟨f₀, z, hz, hs⟩ := exists_last h nofun
  refine ⟨z, hz, ?_⟩
  unfold GivesUp
  generalize z.move = m at hs ⊢
  cases hs with
  | refused e => exact Or.inl ⟨e, rfl, rfl⟩
  | tooLate => exact Or.inr (Or.inl ⟨rfl, rfl⟩)
  | abandon hforce => exact Or.inr (Or.inr ⟨rfl, hforce, rfl⟩)

theorem settles_of_follow {b : Bridge} {r : Except Failure Unit}
    (h : follow target dialing zs = some (ended (some b) r)) : ∃ w, b.first = some w ∧ Settles b w r := by
  obtain ⟨f₀, z, -, hs⟩ := exists_last h nofun
  generalize z.move = m at hs
  cases hs with
  | finish b e he =>
    obtain ⟨w, hfirst, hsettles⟩ := settles_of_outcome? he
    exact ⟨w, hfirst, hsettles.close⟩

/-- A direction is over when its sink has been shut down. -/
theorem exists_shut {b : Bridge} (h : follow target dialing zs = some f) (hb : f.bridge? = some b) (w : Way)
    (hover : (b.flow w).isOver = true) : ∃ z ∈ zs, z.move = .relay (.flow w .shut) := by
  have hflow : (f.flow w).isOver = true := by
    unfold flow
    rw [hb]
    exact hover
  clear hb hover
  revert hflow
  refine follow_induction (R := fun zs f => (f.flow w).isOver = true → ∃ z ∈ zs, z.move = .relay (.flow w .shut))
    (fun hover => by cases hover) ?_ h
  intro zs z f f' _ hold hs hover
  rcases hs.flow w with ⟨-, hsame⟩ | ⟨fm, hfm, hstep⟩
  · rw [hsame] at hover
    obtain ⟨y, hy, hmove⟩ := hold hover
    exact ⟨y, List.mem_append_left _ hy, hmove⟩
  · obtain rfl := Flow.shut_of_isOver hstep hover
    exact ⟨z, by simp, Move.flow?_eq_some.1 hfm⟩

/-- The direction that was seen to end first. -/
def first? (f : Forwarder) : Option Way := f.bridge?.bind Bridge.first

theorem Steps.first? (h : Steps target force f m f') :
    (f'.first? = f.first? ∧ ∀ w, m ≠ .relay (.notice w)) ∨
      ∃ w, m = .relay (.notice w) ∧ f.first? = none ∧ f'.first? = some w ∧ (f.flow w).isOver = true := by
  cases h with
  | relay b b' bm h =>
    cases h with
    | flow w fm x hmay hstep => exact Or.inl ⟨Bridge.setFlow_first, nofun⟩
    | notice w hfirst hover => exact Or.inr ⟨w, rfl, hfirst, rfl, hover⟩
    | graceOver w hfirst hopen hother => exact Or.inl ⟨rfl, nofun⟩
  | _ => exact Or.inl ⟨rfl, nofun⟩

/-- The first direction is the one that was noticed; no other ever is. -/
theorem first?_of_follow (h : follow target dialing zs = some f) (w : Way) :
    f.first? = some w ↔ ∃ z ∈ zs, z.move = .relay (.notice w) := by
  revert w
  refine follow_induction (R := fun zs f => ∀ w, f.first? = some w ↔ ∃ z ∈ zs, z.move = .relay (.notice w)) ?_ ?_ h
  · intro w
    constructor
    · intro hw
      cases hw
    · rintro ⟨z, hz, -⟩
      cases hz
  intro zs z f f' _ hold hs v
  have hsnoc : (∃ y ∈ zs ++ [z], y.move = .relay (.notice v)) ↔
      (∃ y ∈ zs, y.move = .relay (.notice v)) ∨ z.move = .relay (.notice v) := by
    simp only [List.mem_append, List.mem_singleton, or_and_right, exists_or, exists_eq_left]
  rw [hsnoc, ← hold v]
  rcases hs.first? with ⟨hsame, hother⟩ | ⟨w, hmove, hnone, hsome, -⟩
  · rw [hsame]
    simp [hother v]
  · rw [hnone, hsome, hmove]
    simp

/-- A direction is waited for once the other one is noticed. -/
theorem Steps.noticed {b' : Bridge} (h : Steps target force f m (relaying b')) (hfirst : b'.first.isSome = true) :
    (∃ b, f = relaying b ∧ b.first.isSome = true) ∨ ∃ w, m = .relay (.notice w) := by
  cases h with
  | opened => cases hfirst
  | relay b b' bm h =>
    cases h with
    | flow w fm x hmay hstep =>
      rw [Bridge.setFlow_first] at hfirst
      exact Or.inl ⟨b, rfl, hfirst⟩
    | notice w hnone hover => exact Or.inr ⟨w, rfl⟩
    | graceOver w hsome hopen hother => exact Or.inl ⟨b, rfl, hfirst⟩

theorem Steps.closed {b' : Bridge} (h : Steps target force f m (relaying b')) (hclosed : b'.closed = true) :
    (∃ b, f = relaying b ∧ b.closed = true) ∨ m = .relay .graceOver := by
  cases h with
  | opened => cases hclosed
  | relay b b' bm h =>
    cases h with
    | flow w fm x hmay hstep =>
      rw [Bridge.setFlow_closed] at hclosed
      exact Or.inl ⟨b, rfl, hclosed⟩
    | notice w hfirst hover => exact Or.inl ⟨b, rfl, hclosed⟩
    | graceOver w hfirst hopen hother => exact Or.inr rfl

/-- While relaying goes on, only the end of the time for the other direction closes the pair. -/
theorem exists_graceOver {b : Bridge} (h : follow target dialing zs = some (relaying b)) (hclosed : b.closed = true) :
    ∃ z ∈ zs, z.move = .relay .graceOver := by
  refine follow_induction
    (R := fun zs f => ∀ b, f = relaying b → b.closed = true → ∃ z ∈ zs, z.move = .relay .graceOver)
    ?_ ?_ h b rfl hclosed
  · exact fun b hb => by cases hb
  rintro zs z f _ _ hold hs b rfl hclosed
  rcases hs.closed hclosed with ⟨b₀, hb₀, hclosed₀⟩ | hmove
  · obtain ⟨y, hy, hmove⟩ := hold b₀ hb₀ hclosed₀
    exact ⟨y, List.mem_append_left _ hy, hmove⟩
  · exact ⟨z, by simp, hmove⟩

/-! ### In which order -/

section Order

variable {before after : List Stamped}

/-- The state in which a move was made. -/
theorem exists_before (h : follow target dialing (before ++ z :: after) = some f) :
    ∃ f₀ f₁, follow target dialing before = some f₀ ∧ Steps target z.forced f₀ z.move f₁ := by
  rw [(isRun_follow target).append] at h
  obtain ⟨f₀, h₀, h⟩ := Option.bind_eq_some_iff.1 h
  rw [(isRun_follow target).cons] at h
  obtain ⟨f₁, hs, -⟩ := Option.bind_eq_some_iff.1 h
  exact ⟨f₀, f₁, h₀, steps_of_step hs⟩

/-- A direction is noticed after its sink was shut down. -/
theorem shut_before_notice (h : follow target dialing (before ++ z :: after) = some f)
    (hmove : z.move = .relay (.notice w)) : ∃ x ∈ before, x.move = .relay (.flow w .shut) := by
  obtain ⟨f₀, f₁, h₀, hs⟩ := exists_before h
  rw [hmove] at hs
  cases hs with
  | relay b b' bm hs =>
    cases hs with
    | notice w hfirst hover => exact exists_shut h₀ rfl w hover

/-- Unless everything is told to close, a direction is cut only where its pair was closed after the other one. -/
theorem closed_before_cut (h : follow target dialing (before ++ z :: after) = some f)
    (hmove : z.move = .relay (.flow w .cut)) (hforced : z.forced = false) :
    ∃ b, follow target dialing before = some (relaying b) ∧ b.closed = true ∧ b.first = some w.other := by
  obtain ⟨f₀, f₁, h₀, hs⟩ := exists_before h
  rw [hmove, hforced] at hs
  cases hs with
  | relay b b' bm hs =>
    cases hs with
    | flow w fm x hmay hstep =>
      have hclosed : b.closed = true := by simpa [Bridge.mayMove] using hmay
      have hsound : b.Sound := sound_of_follow h₀ rfl
      obtain ⟨v, hv⟩ := Option.isSome_iff_exists.1 (hsound.told hclosed)
      -- the one that was noticed is over, so that it is not the one that is cut
      have hne : v ≠ w := by
        rintro rfl
        have hover := hsound.first v hv
        rw [Flow.not_isOver_of_step hstep] at hover
        cases hover
      exact ⟨b, h₀, hclosed, by rw [hv, Way.eq_other_of_ne hne]⟩

/-- The time for a direction begins when the other one is noticed, and lasts. -/
def Timely (grace : Nat) (zs : List Stamped) : Prop :=
  ∀ before z after, zs = before ++ z :: after → z.move = .relay .graceOver →
    ∃ y ∈ before, (∃ w, y.move = .relay (.notice w)) ∧ y.time + grace ≤ z.time

variable {grace : Nat}

theorem timely_nil : Timely grace [] := by
  intro before z after h
  simp at h

theorem Timely.snoc (h : Timely grace zs) (hz : z.move = .relay .graceOver →
    ∃ y ∈ zs, (∃ w, y.move = .relay (.notice w)) ∧ y.time + grace ≤ z.time) : Timely grace (zs ++ [z]) := by
  intro before x after heq hx
  rcases List.eq_nil_or_concat after with rfl | ⟨after', last, rfl⟩
  · obtain ⟨rfl, hlast⟩ := List.append_inj' heq rfl
    obtain rfl := List.singleton_inj.1 hlast
    exact hz hx
  · rw [List.concat_eq_append, ← List.cons_append, ← List.append_assoc] at heq
    obtain ⟨rfl, -⟩ := List.append_inj' heq rfl
    exact h before x after' rfl hx

theorem Timely.of_append (h : Timely grace (before ++ after)) : Timely grace before := by
  rintro a z b rfl hz
  exact h a z (b ++ after) (by simp) hz

/-- A direction has ended, that was noticed, and after that the time of the other one has run out. -/
def RanOut (grace : Nat) (w : Way) (zs : List Stamped) : Prop :=
  ∃ x y g, [x, y, g].Sublist zs ∧ x.move = .relay (.flow w .shut) ∧ y.move = .relay (.notice w) ∧
    g.move = .relay .graceOver ∧ y.time + grace ≤ g.time

theorem ranOut_of_closed {b : Bridge} (htimely : Timely grace zs) (h : follow target dialing zs = some (relaying b))
    (hclosed : b.closed = true) (hfirst : b.first = some w) : RanOut grace w zs := by
  obtain ⟨g, hg, hgmove⟩ := exists_graceOver h hclosed
  obtain ⟨before, after, rfl⟩ := List.append_of_mem hg
  obtain ⟨y, hy, ⟨v, hymove⟩, htime⟩ := htimely before g after rfl hgmove
  -- there is only one notice
  have hv : (relaying b).first? = some v := (first?_of_follow h v).2 ⟨y, List.mem_append_left _ hy, hymove⟩
  have hvw : v = w := Option.some.inj (hv.symm.trans hfirst)
  subst hvw
  obtain ⟨start, between, rfl⟩ := List.append_of_mem hy
  rw [List.append_assoc, List.cons_append] at h
  obtain ⟨x, hx, hxmove⟩ := shut_before_notice h hymove
  refine ⟨x, y, g, ?_, hxmove, hymove, hgmove, htime⟩
  have hxs : [x].Sublist start := List.singleton_sublist.2 hx
  have hyg : [y, g].Sublist (y :: (between ++ g :: after)) :=
    List.Sublist.cons_cons y (List.singleton_sublist.2 (by simp))
  rw [List.append_assoc, List.cons_append]
  exact hxs.append hyg

theorem ranOut_of_cut (htimely : Timely grace (before ++ z :: after))
    (h : follow target dialing (before ++ z :: after) = some f) (hmove : z.move = .relay (.flow w .cut))
    (hforced : z.forced = false) : RanOut grace w.other before := by
  obtain ⟨b, h₀, hclosed, hfirst⟩ := closed_before_cut h hmove hforced
  exact ranOut_of_closed htimely.of_append h₀ hclosed hfirst

end Order

end Forwarder

end SshTunnel

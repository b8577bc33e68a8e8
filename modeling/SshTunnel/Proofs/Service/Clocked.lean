import Mathlib.Tactic.Common
import SshTunnel.Proofs.Service.Tasks
import SshTunnel.Service.Clock

/-!
A service in time.  The clock ticks, and what is to happen at the end of a wait happens no sooner; everything else
may happen at any time.
-/

namespace SshTunnel

/-! ### Runs with a clock -/

/-- Whether only the clock brings a move about. -/
def Service.Move.isClocked : Service.Move → Bool
  | .work _ (.forward .tooLate) | .work _ (.forward (.relay .graceOver)) | .accept _ .resume | .stop .idle
  | .stop .overdue => true
  | _ => false

namespace Timed

inductive Event
  /-- A millisecond goes by. -/
  | tick
  /-- Someone makes a move that needs no clock. -/
  | free (x : Service.Move)
  /-- One of the moves is made for which it is time. -/
  | due (n : Nat)

variable {m m' m₀ : Timed} {e : Event} {es : List Event} {t : TaskId} {c : Connection} {τ : Nat}

/-- The move that is made. -/
def move? (m : Timed) : Event → Option Service.Move
  | .tick => none
  | .free x => if x.isClocked then none else some x
  | .due n => m.moves[n]?

def play (m : Timed) : Event → Option Timed
  | .tick => some m.tick
  | .free x => (m.move? (.free x)).bind m.step
  | .due n => (m.move? (.due n)).bind m.step

/-- The events in a row. -/
def run (m : Timed) : List Event → Option Timed
  | [] => some m
  | e :: es => (m.play e).bind fun m' => m'.run es

/-- A service that has not been started, at the beginning of time. -/
def forRules (rules : List Rule) (limits : Limits) : Timed := ⟨Service.forRules rules limits, 0, []⟩

theorem isRun : IsRun play run := ⟨fun _ => rfl, fun _ _ _ => rfl⟩

/-- What an event shows of the forwarder of a task. -/
def stamp? (t : TaskId) (m : Timed) (e : Event) : Option Forwarder.Stamped :=
  (m.move? e).bind fun x => (m.service.forwarderMove? t x).map fun y => ⟨m.now, y.1, y.2⟩

/-- What happens to the forwarder of a task, and when. -/
def stamps (t : TaskId) (m : Timed) (es : List Event) : List Forwarder.Stamped := shown play (stamp? t) m es

/-- An event is a tick, or a move of the service that is noted; a move that the clock brings about has its time. -/
inductive Plays (m : Timed) (e : Event) : Timed → Prop
  | tick (h : m.move? e = none) : Plays m e m.tick
  | move (x : Service.Move) (s : Service) (h : m.move? e = some x) (hs : m.service.step x = some s)
    (hdue : x.isClocked = true → x ∈ m.moves) : Plays m e { m with service := s }.note

theorem plays_of_play (h : m.play e = some m') : Plays m e m' := by
  have hmove : ∀ {x : Service.Move}, m.move? e = some x → (x.isClocked = true → x ∈ m.moves) →
      m.step x = some m' → Plays m e m' := by
    intro x hx hdue hstep
    obtain ⟨s, hs, rfl⟩ := Option.map_eq_some_iff.1 hstep
    exact .move x s hx hs hdue
  cases e with
  | tick =>
    obtain rfl := Option.some.inj h
    exact .tick rfl
  | free x =>
    obtain ⟨y, hy, hstep⟩ := Option.bind_eq_some_iff.1 h
    refine hmove hy (fun hclocked => ?_) hstep
    rw [move?] at hy
    split at hy
    · cases hy
    · rename_i hfree
      obtain rfl := Option.some.inj hy
      exact absurd hclocked hfree
  | due n =>
    obtain ⟨y, hy, hstep⟩ := Option.bind_eq_some_iff.1 h
    exact hmove hy (fun _ => List.mem_of_getElem? hy) hstep

/-! ### Waits -/

theorem began_note (m : Timed) : m.note.began.map Prod.fst = m.service.waits := by
  unfold note
  rw [List.map_map]
  exact List.map_id' m.service.waits

/-- A wait that is noted goes on.  It has begun before, or it begins now. -/
theorem mem_began_note {w : Service.Wait} (h : (w, τ) ∈ m.note.began) :
    w ∈ m.service.waits ∧ ((w, τ) ∈ m.began ∨ w ∉ m.began.map Prod.fst ∧ τ = m.now) := by
  obtain ⟨v, hv, heq⟩ := List.mem_map.1 h
  obtain ⟨rfl, rfl⟩ := Prod.mk.inj heq
  refine ⟨hv, ?_⟩
  cases hold : m.began.lookup v with
  | none =>
    refine Or.inr ⟨fun hmem => ?_, rfl⟩
    obtain ⟨p, hp, hfst⟩ := List.mem_map.1 hmem
    have hne := List.lookup_eq_none_iff.1 hold p hp
    simp [hfst] at hne
  | some τ =>
    obtain ⟨l₁, l₂, hsplit, -⟩ := List.lookup_eq_some_iff.1 hold
    refine Or.inl ?_
    rw [hsplit]
    simp

theorem mem_flatten_mapIdx {α β : Type} {l : List α} {f : Nat → α → List β} {b : β} :
    b ∈ (l.mapIdx f).flatten ↔ ∃ i a, l[i]? = some a ∧ b ∈ f i a := by
  simp only [List.mem_flatten, List.mem_mapIdx]
  constructor
  · rintro ⟨_, ⟨i, hi, rfl⟩, hb⟩
    exact ⟨i, l[i], List.getElem?_eq_getElem hi, hb⟩
  · rintro ⟨i, a, ha, hb⟩
    obtain ⟨hi, rfl⟩ := List.getElem?_eq_some_iff.1 ha
    exact ⟨_, ⟨i, hi, rfl⟩, hb⟩

/-- The waits of a task are its own. -/
theorem grace_mem_taskWaits {u : TaskId} : Service.Wait.grace t ∈ Service.taskWaits u c ↔
    u = t ∧ ∃ b, c.forwarder = some (.relaying b) ∧ b.first.isSome = true := by
  constructor
  · intro h
    unfold Service.taskWaits at h
    dsimp only at h
    split at h
    · cases List.mem_singleton.1 h
    · rename_i b hf
      -- a relaying task may wait for the other direction and for each of its two sources: only the first is a grace
      rcases List.mem_append.1 h with h | h
      · rcases List.mem_append.1 h with h | h
        · split at h
          · rename_i hfirst
            obtain rfl := Service.Wait.grace.inj (List.mem_singleton.1 h)
            exact ⟨rfl, b, hf, hfirst⟩
          · cases h
        · split at h
          · cases List.mem_singleton.1 h
          · cases h
      · split at h
        · cases List.mem_singleton.1 h
        · cases h
    · cases h
  · rintro ⟨rfl, b, hf, hfirst⟩
    unfold Service.taskWaits
    rw [hf]
    dsimp only
    rw [if_pos hfirst]
    exact List.mem_append_left _ (List.mem_append_left _ (List.mem_singleton.2 rfl))

/-- A task waits for a direction once the other one was seen to end. -/
theorem mem_waits_grace {s : Service} : Service.Wait.grace t ∈ s.waits ↔
    ∃ c b, s.connections[t]? = some c ∧ c.forwarder = some (.relaying b) ∧ b.first.isSome = true := by
  unfold Service.waits
  dsimp only
  constructor
  · intro h
    -- the waits of the acceptors, of the tasks and of the drain, in this order
    rcases List.mem_append.1 h with h | h
    · rcases List.mem_append.1 h with h | h
      · obtain ⟨i, a, -, h⟩ := mem_flatten_mapIdx.1 h
        split at h
        · cases List.mem_singleton.1 h
        · cases h
      · obtain ⟨u, c, hc, h⟩ := mem_flatten_mapIdx.1 h
        obtain ⟨rfl, b, hb, hfirst⟩ := grace_mem_taskWaits.1 h
        exact ⟨c, b, hc, hb, hfirst⟩
    · split at h
      · split at h
        · cases List.mem_singleton.1 h
        · cases h
      · cases h
  · rintro ⟨c, b, hc, hb, hfirst⟩
    refine List.mem_append_left _ (List.mem_append_right _ ?_)
    exact mem_flatten_mapIdx.2 ⟨t, c, hc, grace_mem_taskWaits.2 ⟨rfl, b, hb, hfirst⟩⟩

/-- It is time for the end of this wait when it has lasted as long as it may. -/
theorem grace_of_mem_moves (h : .work t (.forward (.relay .graceOver)) ∈ m.moves) :
    ∃ start, (.grace t, start) ∈ m.began ∧ start + m.service.limits.closeGrace ≤ m.now := by
  obtain ⟨⟨w, start⟩, hmem, hmove⟩ := List.mem_flatMap.1 h
  -- whatever wait `v` it is: the move after it is this one only if `v` is the grace of `t`
  have hlast : ∀ v, Service.Move.work t (.forward (.relay .graceOver)) ∈
      (if start + Service.limitOf m.service.limits v ≤ m.now then [Service.moveAfter v] else []) →
      v = .grace t ∧ start + Service.limitOf m.service.limits v ≤ m.now := by
    intro v hv
    split at hv
    · rename_i hup
      have hafter := List.mem_singleton.1 hv
      cases v with
      | grace u =>
        obtain ⟨rfl, -⟩ := Service.Move.work.inj hafter
        exact ⟨rfl, hup⟩
      | _ => cases hafter
    · cases hv
  have hw : w = .grace t ∧ start + Service.limitOf m.service.limits w ≤ m.now := by
    -- an idle wait offers a second move, which is never one of a task
    unfold movesOf at hmove
    dsimp only at hmove
    split at hmove
    · split at hmove
      · rcases List.mem_cons.1 hmove with hidle | hmove
        · cases hidle
        · exact hlast _ (by simpa using hmove)
      · cases hmove
    · exact hlast _ (by simpa using hmove)
  obtain ⟨rfl, hup⟩ := hw
  exact ⟨start, hmem, hup⟩

/-! ### One task in time -/

section Task

variable {s s' : Service} {x : Service.Move} {limits : Limits} {zs : List Forwarder.Stamped}

/-- The wait for a direction begins when the other one is noticed. -/
theorem notice_of_wait (hs : s.step x = some s') (hold : Service.Wait.grace t ∉ s.waits)
    (hnew : Service.Wait.grace t ∈ s'.waits) : ∃ w, s.forwarderMove? t x = some (s.isForced, .relay (.notice w)) := by
  obtain ⟨c', b', hc', hb', hfirst⟩ := mem_waits_grace.1 hnew
  have hreached : c'.reached = .relaying b' := by
    unfold Connection.reached
    rw [hb']
    rfl
  -- a task that already relayed, of which one direction was noticed, was already waiting
  have hwaits : ∀ {c : Connection} {b : Bridge}, s.connections[t]? = some c → c.reached = .relaying b →
      b.first.isSome = true → False := by
    intro c b hc hb hsome
    refine hold (mem_waits_grace.2 ⟨c, b, hc, ?_, hsome⟩)
    unfold Connection.reached at hb
    cases hf : c.forwarder with
    | none =>
      rw [hf] at hb
      cases hb
    | some f =>
      rw [hf] at hb
      exact congrArg some hb
  have heff := Service.effect_of_step hs
  rcases Service.reached_of_effect heff t with ⟨-, hsame⟩ | ⟨c, d, rule, fm, hc, hd, -, -, hmove, hstep⟩
  · rcases hsame c' hc' with ⟨-, hfresh⟩ | ⟨c, hc, -, hsame⟩
    · rw [hreached] at hfresh
      cases hfresh
    · exact (hwaits hc (hsame.symm.trans hreached) hfirst).elim
  · obtain rfl := Option.some.inj (hd.symm.trans hc')
    rw [hreached] at hstep
    rcases (Forwarder.steps_of_step hstep).noticed hfirst with ⟨b, hb, hsome⟩ | ⟨w, rfl⟩
    · exact (hwaits hc hb hsome).elim
    · exact ⟨w, hmove⟩

/-- A relaying forwarder is moved by its own task. -/
theorem eq_of_forwarderMove? {force : Bool} {bm : Bridge.Move}
    (h : s.forwarderMove? t x = some (force, .relay bm)) : x = .work t (.forward (.relay bm)) := by
  unfold Service.forwarderMove? at h
  split at h
  · rename_i u cm
    split at h
    · rename_i hu
      obtain ⟨fm, hfm, heq⟩ := Option.map_eq_some_iff.1 h
      obtain ⟨-, rfl⟩ := Prod.mk.inj heq
      rw [hu, Connection.Move.eq_of_forwarder? hfm]
    · cases h
  · cases h

/-- What happened to the forwarder of a task tells when its waits began, and none of them was cut short. -/
structure Punctual (t : TaskId) (limits : Limits) (zs : List Forwarder.Stamped) (m : Timed) : Prop where
  driven : m.service.Driven t (zs.map fun z => (z.forced, z.move))
  bounds : m.service.limits = limits
  noted : .grace t ∈ m.service.waits → .grace t ∈ m.began.map Prod.fst
  begun : ∀ τ, (.grace t, τ) ∈ m.began → ∃ z ∈ zs, (∃ w, z.move = .relay (.notice w)) ∧ z.time ≤ τ
  timely : Forwarder.Timely limits.closeGrace zs
  past : ∀ z ∈ zs, z.time ≤ m.now
  ordered : zs.Pairwise fun y z => y.time ≤ z.time

theorem punctual_forRules (rules : List Rule) (limits : Limits) (t : TaskId) :
    Punctual t limits [] (forRules rules limits) := by
  constructor
  case driven => exact Service.driven_forRules rules limits t
  case bounds => rfl
  case noted =>
    intro hwait
    obtain ⟨c, b, hc, -⟩ := mem_waits_grace.1 hwait
    cases hc
  case begun => exact fun τ hτ => by cases hτ
  case timely => exact Forwarder.timely_nil
  case past => exact fun z hz => by cases hz
  case ordered => exact List.Pairwise.nil

theorem Punctual.tick (h : Punctual t limits zs m) : Punctual t limits zs m.tick :=
  ⟨h.driven, h.bounds, h.noted, h.begun, h.timely, fun z hz => (h.past z hz).trans (Nat.le_succ _), h.ordered⟩

/-- A move of another part, or of the task but not of its forwarder. -/
theorem Punctual.aside (h : Punctual t limits zs m) (hs : m.service.step x = some s)
    (hx : m.service.forwarderMove? t x = none) : Punctual t limits zs { m with service := s }.note := by
  constructor
  case driven =>
    have hdriven := h.driven.step hs
    rw [hx, Option.toList_none, List.append_nil] at hdriven
    exact hdriven
  case bounds => exact (Service.limits_step hs).trans h.bounds
  case noted =>
    rw [began_note]
    exact id
  -- a wait that is new now would need a move of the forwarder, and there is none
  case begun =>
    intro τ hτ
    obtain ⟨hwait, hold | ⟨hnew, -⟩⟩ := mem_began_note hτ
    · exact h.begun τ hold
    · obtain ⟨w, hw⟩ := notice_of_wait hs (fun hwas => hnew (h.noted hwas)) hwait
      rw [hx] at hw
      cases hw
  case timely => exact h.timely
  case past => exact h.past
  case ordered => exact h.ordered

/-- A move of the forwarder of the task, now. -/
theorem Punctual.move {y : Bool × Forwarder.Move} (h : Punctual t limits zs m) (hs : m.service.step x = some s)
    (hdue : x.isClocked = true → x ∈ m.moves) (hx : m.service.forwarderMove? t x = some y) :
    Punctual t limits (zs ++ [⟨m.now, y.1, y.2⟩]) { m with service := s }.note := by
  constructor
  case driven =>
    have hdriven := h.driven.step hs
    rw [hx] at hdriven
    rw [List.map_append]
    exact hdriven
  case bounds => exact (Service.limits_step hs).trans h.bounds
  case noted =>
    rw [began_note]
    exact id
  -- a wait that is new now was begun by this very move, which is the last of the list
  case begun =>
    intro τ hτ
    obtain ⟨hwait, hold | ⟨hnew, rfl⟩⟩ := mem_began_note hτ
    · obtain ⟨z, hz, hnotice, hle⟩ := h.begun τ hold
      exact ⟨z, List.mem_append_left _ hz, hnotice, hle⟩
    · obtain ⟨w, hw⟩ := notice_of_wait hs (fun hwas => hnew (h.noted hwas)) hwait
      obtain rfl := Option.some.inj (hx.symm.trans hw)
      exact ⟨_, List.mem_append_right _ (List.mem_singleton.2 rfl), ⟨w, rfl⟩, Nat.le_refl _⟩
  -- only the end of a grace has to be late enough: it was due, and its begin stands in the list
  case timely =>
    refine h.timely.snoc fun hover => ?_
    have hmove : x = .work t (.forward (.relay .graceOver)) := by
      have hy : y = (y.1, .relay .graceOver) := Prod.ext rfl hover
      exact eq_of_forwarderMove? (hx.trans (congrArg some hy))
    subst hmove
    obtain ⟨start, hbegan, hup⟩ := grace_of_mem_moves (hdue rfl)
    obtain ⟨z, hz, hnotice, hle⟩ := h.begun start hbegan
    rw [h.bounds] at hup
    exact ⟨z, hz, hnotice, (Nat.add_le_add_right hle _).trans hup⟩
  case past =>
    intro z hz
    rcases List.mem_append.1 hz with hz | hz
    · exact h.past z hz
    · obtain rfl := List.mem_singleton.1 hz
      exact Nat.le_refl _
  case ordered =>
    refine List.pairwise_append.2 ⟨h.ordered, List.pairwise_singleton _ _, fun y hy z hz => ?_⟩
    obtain rfl := List.mem_singleton.1 hz
    exact h.past y hy

theorem Punctual.step (h : Punctual t limits zs m) (hplays : m.Plays e m') :
    Punctual t limits (zs ++ (stamp? t m e).toList) m' := by
  cases hplays with
  | tick hnone =>
    rw [stamp?, hnone, Option.bind_none, Option.toList_none, List.append_nil]
    exact h.tick
  | move x s hx hs hdue =>
    rw [stamp?, hx, Option.bind_some]
    cases hy : m.service.forwarderMove? t x with
    | none =>
      rw [Option.map_none, Option.toList_none, List.append_nil]
      exact h.aside hs hy
    | some y => exact h.move hs hdue hy

theorem punctual_of_run {rules : List Rule} (h : (forRules rules limits).run es = some m) (t : TaskId) :
    Punctual t limits (stamps t (forRules rules limits) es) m := by
  refine isRun.induction (P := fun es m => Punctual t limits (stamps t (forRules rules limits) es) m)
    (punctual_forRules rules limits t) ?_ h
  intro es e m m' hrun hpunctual hplay
  have hsnoc := isRun.shown_snoc (m := e) (stamp? t) hrun
  unfold stamps
  rw [hsnoc]
  exact hpunctual.step (plays_of_play hplay)

end Task

end Timed

end SshTunnel

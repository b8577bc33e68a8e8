import Mathlib.Tactic.Common
import SshTunnel.Proofs.Relay.Chunks
import SshTunnel.Proofs.Relay.Pair
import SshTunnel.Proofs.Service.Clients
import SshTunnel.Proofs.Service.Streams

/-!
The task of one connection among all others.  What a run of a service shows of it is a run of its forwarder, and one
of each of its two directions.
-/

namespace SshTunnel

namespace Forwarder

/-- The moves of one direction. -/
def flowMoves (w : Way) (ys : List (Bool × Move)) : List Flow.Move := ys.filterMap fun y => y.2.flow? w

theorem flow_of_run {target : Target} {f : Forwarder} {ys : List (Bool × Move)} (h : run target dialing ys = some f)
    (w : Way) : Flow.run {} (flowMoves w ys) = some (f.flow w) := by
  refine (isRun target).induction (P := fun ys f => Flow.run {} (flowMoves w ys) = some (f.flow w)) rfl ?_ h
  intro ys y f f' _ hflow hs
  have hsnoc : flowMoves w (ys ++ [y]) = flowMoves w ys ++ (y.2.flow? w).toList := filterMap_snoc _ ys y
  rw [hsnoc]
  rcases (steps_of_step hs).flow w with ⟨hnone, hsame⟩ | ⟨fm, hsome, hstep⟩
  · rw [hnone, hsame, Option.toList_none, List.append_nil]
    exact hflow
  · rw [hsome]
    exact Flow.isRun.snoc hflow hstep

end Forwarder

namespace Service

variable {s s' : Service} {m : Move} {xs : List Move} {rules : List Rule} {limits : Limits} {t : TaskId}
  {c c' : Connection} {w : Way}

/-- What a move is to the forwarder of a task, and whether everything is told to close by then. -/
def forwarderMove? (t : TaskId) (s : Service) : Move → Option (Bool × Forwarder.Move)
  | .work u cm => if u = t then cm.forwarder?.map fun fm => (s.isForced, fm) else none
  | _ => none

/-- What a run shows of the forwarder of a task. -/
def forwarderMoves (t : TaskId) (s : Service) (xs : List Move) : List (Bool × Forwarder.Move) :=
  traced (forwarderMove? t) s xs

/-- A task is where it was, or new. -/
def SameReach (t : TaskId) (s s' : Service) : Prop :=
  ∀ c', s'.connections[t]? = some c' → (s.connections[t]? = none ∧ c'.reached = .dialing) ∨
    ∃ c, s.connections[t]? = some c ∧ c'.rule = c.rule ∧ c'.reached = c.reached

theorem sameReach_of_connections (h : s'.connections = s.connections) (t : TaskId) : SameReach t s s' := by
  refine fun c' hc' => Or.inr ⟨c', ?_, rfl, rfl⟩
  rw [← h]
  exact hc'

theorem sameReach_of_set {u : TaskId} {d d' : Connection} (hd : s.connections[u]? = some d)
    (h : s'.connections = s.connections.set u d') (hu : u = t → d'.rule = d.rule ∧ d'.reached = d.reached) :
    SameReach t s s' := by
  refine fun c' hc' => Or.inr ?_
  rw [h] at hc'
  rcases getElem?_set_eq_some hc' with ⟨rfl, rfl⟩ | ⟨-, hc⟩
  · obtain ⟨hrule, hreached⟩ := hu rfl
    exact ⟨d, hd, hrule, hreached⟩
  · exact ⟨c', hc, rfl, rfl⟩

/-- A move is one of the forwarder of a task, or nothing to it. -/
theorem reached_of_effect (h : Effect s m s') (t : TaskId) :
    (s.forwarderMove? t m = none ∧ SameReach t s s') ∨
      ∃ c c' rule fm, s.connections[t]? = some c ∧ s'.connections[t]? = some c' ∧ c'.rule = c.rule ∧
        s.rules[c.rule]? = some rule ∧ s.forwarderMove? t m = some (s.isForced, fm) ∧
        c.reached.step ⟨rule.remoteAddr, s.limits.dial⟩ s.isForced fm = some c'.reached := by
  -- dialling is not a move of the forwarder: it makes one, at its first state, where `reached` already reads it
  cases h with
  | aside hm hsame =>
    refine Or.inl ⟨?_, sameReach_of_connections hsame.connections t⟩
    cases m with
    | work => cases hm
    | _ => rfl
  | abort lost hst =>
    refine Or.inl ⟨rfl, fun c' hc' => Or.inr ?_⟩
    have habort : s.abortAll.connections[t]? = some c' := hc'
    unfold abortAll at habort
    dsimp only at habort
    rw [List.getElem?_mapIdx] at habort
    obtain ⟨d, hd, rfl⟩ := Option.map_eq_some_iff.1 habort
    refine ⟨d, hd, ?_⟩
    split
    · exact ⟨rfl, rfl⟩
    · exact ⟨rfl, rfl⟩
  | spawn i a cl id ha hst =>
    refine Or.inl ⟨rfl, fun c' hc' => ?_⟩
    -- an old task keeps its place; the new one has no forwarder, so it has reached nothing
    by_cases ht : t < s.connections.length
    · rw [List.getElem?_append_left ht] at hc'
      exact Or.inr ⟨c', hc', rfl, rfl⟩
    · rw [List.getElem?_append_right (Nat.le_of_not_lt ht), List.getElem?_singleton] at hc'
      split at hc'
      · obtain rfl := Option.some.inj hc'
        exact Or.inl ⟨List.getElem?_eq_none (Nat.le_of_not_lt ht), rfl⟩
      · cases hc'
  | dial u d rule hd hrule hnew hlive =>
    refine Or.inl ⟨?_, sameReach_of_set hd rfl fun _ => ⟨rfl, ?_⟩⟩
    · simp only [forwarderMove?, Connection.Move.forwarder?, Option.map_none, ite_self]
    · unfold Connection.reached
      rw [hnew]
      rfl
  | work u cm d d' rule hm hd hrule hagree hwork =>
    have hrule' : d'.rule = d.rule := congrArg Booking.rule hwork.booking
    -- the work of another task writes another entry
    by_cases hu : u = t
    · subst hu
      rcases hwork.reached with ⟨hnone, hsame⟩ | ⟨fm, hsome, hstep⟩
      · refine Or.inl ⟨?_, sameReach_of_set hd rfl fun _ => ⟨hrule', hsame⟩⟩
        rw [forwarderMove?, if_pos rfl, hnone]
        rfl
      · refine Or.inr ⟨d, d', rule, fm, hd, getElem?_set_of_getElem? hd d', hrule', hrule, ?_, hstep⟩
        rw [forwarderMove?, if_pos rfl, hsome]
        rfl
    · exact Or.inl ⟨if_neg hu, sameReach_of_set hd rfl fun h => absurd h hu⟩
  | remove u d hd hdone hheld hfirst => exact Or.inl ⟨rfl, sameReach_of_set hd rfl fun _ => ⟨rfl, rfl⟩⟩
  | countOut u d hd hremoved => exact Or.inl ⟨rfl, sameReach_of_set hd rfl fun _ => ⟨rfl, rfl⟩⟩
  | returnPermit u d a hd ha hdone hpermit hlast => exact Or.inl ⟨rfl, sameReach_of_set hd rfl fun _ => ⟨rfl, rfl⟩⟩
  | _ => exact Or.inl ⟨rfl, sameReach_of_connections rfl t⟩

/-- What the forwarder of a connection is given. -/
def targetOf (s : Service) (c : Connection) : Forwarder.Target :=
  ⟨(s.rules[c.rule]?.map Rule.remoteAddr).getD "", s.limits.dial⟩

/-- The forwarder of a task has come where it is by these moves. -/
structure Driven (t : TaskId) (ys : List (Bool × Forwarder.Move)) (s : Service) : Prop where
  fresh : s.connections[t]? = none → ys = []
  reached : ∀ c, s.connections[t]? = some c → Forwarder.run (s.targetOf c) .dialing ys = some c.reached

theorem driven_forRules (rules : List Rule) (limits : Limits) (t : TaskId) : Driven t [] (forRules rules limits) := by
  refine ⟨fun _ => rfl, fun c hc => ?_⟩
  cases hc

theorem Driven.step {ys : List (Bool × Forwarder.Move)} (h : Driven t ys s) (hs : s.step m = some s') :
    Driven t (ys ++ (s.forwarderMove? t m).toList) s' := by
  have heff := effect_of_step hs
  -- rules and limits never change, so what the forwarder of a task is given never does
  have htarget : ∀ {c c' : Connection}, c'.rule = c.rule → s'.targetOf c' = s.targetOf c := by
    intro c c' hrule
    unfold targetOf
    rw [hrule, rules_step hs, limits_step hs]
  rcases reached_of_effect heff t with ⟨hnone, hsame⟩ | ⟨c, c', rule, fm, hc, hc', hrule, hrules, hmove, hstep⟩
  · rw [hnone, Option.toList_none, List.append_nil]
    refine ⟨fun hnone' => h.fresh ?_, fun c' hc' => ?_⟩
    · -- tasks are never taken off the list: one that is not there now was not there before
      by_contra hold
      obtain ⟨c, hc⟩ := Option.ne_none_iff_exists'.1 hold
      obtain ⟨c', hc', -⟩ := exists_later heff hc
      rw [hnone'] at hc'
      cases hc'
    · rcases hsame c' hc' with ⟨hnew, hreached⟩ | ⟨c, hc, hrule, hreached⟩
      · rw [h.fresh hnew, hreached]
        rfl
      · rw [hreached, htarget hrule]
        exact h.reached c hc
  · rw [hmove]
    refine ⟨fun hnone' => ?_, fun d hd => ?_⟩
    · rw [hc'] at hnone'
      cases hnone'
    rw [hc'] at hd
    obtain rfl := Option.some.inj hd
    have hown : s.targetOf c = ⟨rule.remoteAddr, s.limits.dial⟩ := by
      unfold targetOf
      rw [hrules]
      rfl
    rw [htarget hrule]
    exact (Forwarder.isRun _).snoc (h.reached c hc) (hown ▸ hstep)

/-- **A run of a service shows a run of the forwarder of each connection.** -/
theorem driven_of_run (h : (forRules rules limits).run xs = some s) (t : TaskId) :
    Driven t (forwarderMoves t (forRules rules limits) xs) s := by
  refine run_induction (P := fun xs s => Driven t (forwarderMoves t (forRules rules limits) xs) s)
    (driven_forRules rules limits t) ?_ h
  intro xs x s s' hrun hdriven hs
  have hsnoc := traced_snoc (m := x) (forwarderMove? t) hrun
  unfold forwarderMoves
  rw [hsnoc]
  exact hdriven.step hs

/-- It shows a run of each direction. -/
theorem flow_of_run (h : (forRules rules limits).run xs = some s) (hc : s.connections[t]? = some c) (w : Way) :
    Flow.run {} (Forwarder.flowMoves w (forwarderMoves t (forRules rules limits) xs)) = some (c.flow w) := by
  rw [c.flow_reached]
  exact Forwarder.flow_of_run ((driven_of_run h t).reached c hc) w

end Service

end SshTunnel

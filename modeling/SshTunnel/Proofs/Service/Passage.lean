import Mathlib.Tactic.Common
import SshTunnel.Proofs.Service.Tasks

/-!
What passes through one direction of a connection, and what the counters of its rule show of it.
-/

namespace SshTunnel.Service

variable {s : Service} {t : TaskId} {c : Connection} {w : Way}

/-- What was counted for the other connections of a rule. -/
def carriedBeside (s : Service) (t : TaskId) (w : Way) (j : Nat) : Nat :=
  (((s.connections.eraseIdx t).filter fun c => c.rule = j).map fun c => (c.flow w).counted).sum

theorem carried_eq_add (hc : s.connections[t]? = some c) (w : Way) :
    s.carried w c.rule = (c.flow w).counted + s.carriedBeside t w c.rule := by
  obtain ⟨ht, rfl⟩ := List.getElem?_eq_some_iff.1 hc
  have hperm : s.connections.Perm (s.connections[t] :: s.connections.eraseIdx t) :=
    (List.getElem_cons_eraseIdx_perm ht).symm
  unfold carried carriedBeside
  rw [((hperm.filter _).map _).sum_eq, List.filter_cons, if_pos (decide_eq_true rfl), List.map_cons, List.sum_cons]

/-- **One direction passes on what its source gives, in its order and from the beginning, and counts the chunks that
it has written completely.**  However the source is cut into chunks, whatever the sink takes at once, and wherever
an error or a signal cuts it off: in a run of a service, every direction of every connection comes to this by its
moves, and what it has counted is in the counter of its rule. -/
theorem relayed_and_counted (source : Bytes) (ms : List Flow.Move) (f : Flow) (hdraws : Flow.draws source ms = true)
    (h : Flow.run {} ms = some f) :
    Flow.Relayed source ms f ∧
      ∀ (rules : List Rule) (limits : Limits) (xs : List Move) (s : Service) (t : TaskId) (c : Connection) (w : Way),
        (forRules rules limits).run xs = some s → s.connections[t]? = some c →
        Forwarder.flowMoves w (forwarderMoves t (forRules rules limits) xs) = ms →
        c.flow w = f ∧ ∀ st, s.roster.stats? c.rule = some st →
          st.moved w = UInt64.ofNat (f.counted + s.carriedBeside t w c.rule) := by
  refine ⟨Flow.relayed_of_run hdraws h, ?_⟩
  intro rules limits xs s t c w hrun hc hms
  have hflow := flow_of_run hrun hc w
  rw [hms, h] at hflow
  obtain rfl := Option.some.inj hflow
  refine ⟨rfl, fun st hst => ?_⟩
  rw [tallied_of_run hrun c.rule st w hst, carried_eq_add hc]

/-- Two chunks, of which the first is written piecemeal, and the end behind them. -/
theorem relayed_and_counted_piecemeal :
    ∃ f, Flow.run {} [.read [1, 2, 3], .accept 2, .accept 1, .read [4, 5], .accept 2, .readEnd, .shut] = some f ∧
      f.outcome? = some none ∧ Flow.Relayed [1, 2, 3, 4, 5]
        [.read [1, 2, 3], .accept 2, .accept 1, .read [4, 5], .accept 2, .readEnd, .shut] f :=
  ⟨_, rfl, rfl, (relayed_and_counted [1, 2, 3, 4, 5] _ _ (by decide) rfl).1⟩

end SshTunnel.Service

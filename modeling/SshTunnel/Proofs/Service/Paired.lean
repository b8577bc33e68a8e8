import Mathlib.Tactic.Common
import SshTunnel.Proofs.Service.Clocked

/-!
How a connection comes to its end: without a channel before anything moves, and with one when both of its directions
have ended.
-/

namespace SshTunnel

/-! ### Without a channel -/

namespace Service

variable {s : Service} {t : TaskId} {c c' : Connection}

/-- What a connection does next is not counted as bytes that moved. -/
def CountsNone (s : Service) (t : TaskId) : Prop :=
  ∀ (x : Move) (s' : Service), x.task? = some t → s.step x = some s' →
    ∀ (j : Nat) (w : Way), (s'.roster.stats? j).map (·.moved w) = (s.roster.stats? j).map (·.moved w)

theorem moved_count (r : Roster) (i : Nat) {f : Stats → Stats} (hf : ∀ st w, (f st).moved w = st.moved w) (j : Nat)
    (w : Way) : ((r.count i f).stats? j).map (·.moved w) = (r.stats? j).map (·.moved w) := by
  rw [Roster.stats?_count]
  split
  · rw [Option.map_map]
    exact congrArg (Option.map · (r.stats? j)) (funext fun st => hf st w)
  · rfl

theorem moved_countBytes (h : ∀ w, c'.flow w = c.flow w) (r : Roster) (j : Nat) (w : Way) :
    ((countBytes c c' r).stats? j).map (·.moved w) = (r.stats? j).map (·.moved w) := by
  unfold countBytes
  dsimp only
  rw [h, h, Nat.sub_self, Nat.sub_self, moved_count, moved_count]
  · intro st v
    rw [moved_sentMore]
    split
    · exact UInt64.add_zero _
    · exact UInt64.add_zero _
  · intro st v
    rw [moved_receivedMore]
    split
    · exact UInt64.add_zero _
    · exact UInt64.add_zero _

end Service

/-- A task without a channel has nothing to relay, and what opens one relays nothing. -/
theorem Connection.Works.flow_same {target : Forwarder.Target} {force : Bool} {c c' : Connection} {m : Connection.Move}
    (h : c.Works target force m c') (hc : c.reached.bridge? = none) (w : Way) : c'.flow w = c.flow w := by
  rw [c.flow_reached, c'.flow_reached]
  rcases h.reached with ⟨-, hsame⟩ | ⟨fm, -, hstep⟩
  · rw [hsame]
  · rw [(Forwarder.steps_of_step hstep).flow_eq_fresh hc]
    unfold Forwarder.flow
    rw [hc]
    rfl

theorem Service.countsNone_of_unopened {s : Service} {t : TaskId} {c : Connection} (hc : s.connections[t]? = some c)
    (hnone : c.reached.bridge? = none) : s.CountsNone t := by
  intro x s' hx hs j w
  have hsame : ∀ {d : Connection}, s.connections[t]? = some d → d = c :=
    fun hd => Option.some.inj (hd.symm.trans hc)
  -- dialling and working move bytes only through a direction, and without a channel there is none
  cases effect_of_step hs with
  | dial u d rule hd hrule hnew hlive =>
    obtain rfl := Option.some.inj hx
    obtain rfl := hsame hd
    have hdial : d.Works ⟨rule.remoteAddr, s.limits.dial⟩ s.isForced .dial { d with forwarder := some .dialing } :=
      .dial hnew hlive
    exact moved_countBytes (hdial.flow_same hnone) s.roster j w
  | work u cm d d' rule hm hd hrule hagree hwork =>
    obtain rfl := Option.some.inj hx
    obtain rfl := hsame hd
    exact moved_countBytes (hwork.flow_same hnone) s.roster j w
  | countOut u d hd hremoved =>
    exact moved_count s.roster d.rule (fun st v => by cases v <;> rfl) j w
  | aside hm hparts =>
    rw [hparts.roster]
  | remove u d hd hdone hheld hfirst => rfl
  | returnPermit u d a hd ha hdone hpermit hlast => rfl
  | _ => cases hx

/-! ### With one -/

namespace Forwarder

/-- A direction ended, and the other one had not ended before. -/
def EndedFirst (w : Way) (zs : List Stamped) : Prop :=
  ∃ before z after, zs = before ++ z :: after ∧ z.move = .relay (.flow w .shut) ∧
    ∀ x ∈ before, x.move ≠ .relay (.flow w.other .shut)

/-- A direction had ended when the call saw for the first time that one had, and it was the one that was seen.  It had
ended first, unless the other one had ended by then too: of two that have ended either may be seen. -/
def SeenFirst (w : Way) (zs : List Stamped) : Prop :=
  ∃ before z after, zs = before ++ z :: after ∧ z.move = .relay (.notice w) ∧
    (∃ x ∈ before, x.move = .relay (.flow w .shut)) ∧ (∀ v, ∀ x ∈ before, x.move ≠ .relay (.notice v)) ∧
    (EndedFirst w zs ∨ ∃ x ∈ before, x.move = .relay (.flow w.other .shut))

/-- How the two directions of a connection belong together, by what has happened to it so far. -/
structure Paired (target : Target) (grace : Nat) (zs : List Stamped) (f : Forwarder) : Prop where
  reached : follow target .dialing zs = some f
  ordered : zs.Pairwise fun y z => y.time ≤ z.time
  /-- Without a channel there are no directions, none ever moved, and the end is that of the dial. -/
  unopened : (∀ z ∈ zs, z.move ≠ .opened) →
    f.bridge? = none ∧ (∀ z ∈ zs, ∀ w, z.move.flow? w = none) ∧
      ∀ o r, f = .ended o r → ∃ z ∈ zs, GivesUp target z r
  /-- With one there are two, which are told to close once, and the end is theirs. -/
  opened : (∃ z ∈ zs, z.move = .opened) →
    ∃ b, f.bridge? = some b ∧ b.closings ≤ 1 ∧
      ∀ o r, f = .ended o r → ∃ w, b.first = some w ∧ SeenFirst w zs ∧ Settles b w r
  /-- What is told to close while it goes on has outlived the other one for long enough. -/
  closed : ∀ b, f = .relaying b → b.closed = true → ∃ w, b.first = some w ∧ RanOut grace w zs
  /-- A direction is cut when it has outlived the other one for as long, or when everything is told to close. -/
  cut : ∀ before z after w, zs = before ++ z :: after → z.move = .relay (.flow w .cut) → z.forced = false →
    RanOut grace w.other before

variable {target : Target} {grace : Nat} {zs : List Stamped} {f : Forwarder}

/-- Of two directions the one that has ended, while the other has not, is the first to end. -/
theorem endedFirst_or {w : Way} {before : List Stamped} (hended : ∃ x ∈ before, x.move = .relay (.flow w .shut))
    (later : List Stamped) :
    EndedFirst w (before ++ later) ∨ ∃ x ∈ before, x.move = .relay (.flow w.other .shut) := by
  by_cases hother : ∃ x ∈ before, x.move = .relay (.flow w.other .shut)
  · exact Or.inr hother
  · obtain ⟨x, hx, hmove⟩ := hended
    -- the move that ended `w` splits the list; the other one is not even later in `before`, so not before it either
    obtain ⟨earlier, between, rfl⟩ := List.append_of_mem hx
    refine Or.inl ⟨earlier, x, between ++ later, by simp, hmove, fun y hy hshut => ?_⟩
    exact hother ⟨y, List.mem_append_left _ hy, hshut⟩

theorem seenFirst_of_first? {w : Way} (h : follow target .dialing zs = some f) (hfirst : f.first? = some w) :
    SeenFirst w zs := by
  obtain ⟨z, hz, hmove⟩ := (first?_of_follow h w).1 hfirst
  obtain ⟨before, after, rfl⟩ := List.append_of_mem hz
  -- a second notice would need a state in which none was made, and the first one stands
  obtain ⟨f₀, f₁, h₀, hs⟩ := exists_before h
  have hended := shut_before_notice h hmove
  refine ⟨before, z, after, rfl, hmove, hended, fun v x hx hv => ?_, endedFirst_or hended (z :: after)⟩
  rcases hs.first? with ⟨-, hother⟩ | ⟨-, -, hnone, -⟩
  · exact hother w hmove
  · rw [(first?_of_follow h₀ v).2 ⟨x, hx, hv⟩] at hnone
    cases hnone

theorem paired_of_follow (h : follow target .dialing zs = some f) (hordered : zs.Pairwise fun y z => y.time ≤ z.time)
    (htimely : Timely grace zs) : Paired target grace zs f := by
  -- a channel was opened in the list exactly when there are directions now
  have hopened := isSome_bridge?_of_follow h
  constructor
  case reached => exact h
  case ordered => exact hordered
  case unopened =>
    intro hnever
    have hnone : f.bridge? = none := by
      rw [← Option.not_isSome_iff_eq_none, hopened]
      simpa using hnever
    refine ⟨hnone, fun z hz => flow?_eq_none_of_follow h hnone hz, ?_⟩
    rintro o r rfl
    obtain rfl : o = none := hnone
    exact givesUp_of_follow h
  case opened =>
    rintro ⟨z, hz, hmove⟩
    have hsome : f.bridge?.isSome = true := by
      rw [hopened]
      exact List.any_eq_true.2 ⟨z, hz, decide_eq_true hmove⟩
    obtain ⟨b, hb⟩ := Option.isSome_iff_exists.1 hsome
    refine ⟨b, hb, ?_, ?_⟩
    · rw [(sound_of_follow h hb).closings]
      split
      · exact Nat.le_refl 1
      · exact Nat.zero_le 1
    · rintro o r rfl
      obtain rfl : o = some b := hb
      obtain ⟨w, hfirst, hsettles⟩ := settles_of_follow h
      exact ⟨w, hfirst, seenFirst_of_first? h hfirst, hsettles⟩
  case closed =>
    rintro b rfl hclosed
    obtain ⟨w, hfirst⟩ := Option.isSome_iff_exists.1 ((sound_of_follow h rfl).told hclosed)
    exact ⟨w, hfirst, ranOut_of_closed htimely h hclosed hfirst⟩
  case cut =>
    rintro before z after w rfl hmove hforced
    exact ranOut_of_cut htimely h hmove hforced

end Forwarder

namespace Timed

/-- **The two directions of a connection are closed as a pair.**  However the dial comes out, in whatever order and way
the directions end, and whenever everything is told to close: without a channel no direction begins and no byte is
counted.  With one, the end waits for both; it has the error of the direction that was seen to end first, or else that
of the other.  The one that is seen first is the one that ended first, unless both had ended by then.  One of them is
told to close only when it has outlived the other for the time that it is given, and once at most. -/
theorem closed_in_pairs (rules : List Rule) (limits : Limits) (es : List Event) (m : Timed) (t : TaskId)
    (c : Connection) (h : (forRules rules limits).run es = some m) (hc : m.service.connections[t]? = some c) :
    Forwarder.Paired (m.service.targetOf c) limits.closeGrace (stamps t (forRules rules limits) es) c.reached ∧
      ((∀ z ∈ stamps t (forRules rules limits) es, z.move ≠ .opened) → m.service.CountsNone t) := by
  have hpunctual := punctual_of_run h t
  have hpaired := Forwarder.paired_of_follow (hpunctual.driven.reached c hc) hpunctual.ordered hpunctual.timely
  exact ⟨hpaired, fun hnever => Service.countsNone_of_unopened hc (hpaired.unopened hnever).1⟩

/-- The moves by which a client of the only rule gets a channel. -/
def untilOpened : List Service.Move :=
  [.start .authenticate, .start (.established (.ok ())), .start (.bind (Listener.onHost [])), .start .announce,
    .accept 0 .start, .accept 0 .takePermit, .outside (.connect 0 ⟨"127.0.0.1", 40000⟩), .accept 0 .accept, .enrol 0,
    .enrol 0, .enrol 0, .enrol 0, .enrol 0, .work 0 .dial, .work 0 (.forward .opened)]

/-- The client ends, and the other direction is closed two milliseconds later. -/
def outlived : List Event :=
  untilOpened.map .free ++
    [.free (.work 0 (.forward (.relay (.flow .up .readEnd)))), .free (.work 0 (.forward (.relay (.flow .up .shut)))),
      .free (.work 0 (.forward (.relay (.notice .up)))), .tick, .tick, .due 0,
      .free (.work 0 (.forward (.relay (.flow .down .cut)))), .free (.work 0 (.forward (.relay (.flow .down .shut)))),
      .free (.work 0 (.forward .finish))]

theorem closed_in_pairs_outlived :
    ∃ m c b, (forRules [⟨"127.0.0.1", 8080, "db", 5432⟩] { closeGrace := 2 }).run outlived = some m ∧
      m.service.connections[0]? = some c ∧ c.reached = .ended (some b) (.ok ()) ∧ b.first = some .up ∧
      b.closings = 1 ∧
      Forwarder.Paired (m.service.targetOf c) 2
        (stamps 0 (forRules [⟨"127.0.0.1", 8080, "db", 5432⟩] { closeGrace := 2 }) outlived) c.reached := by
  refine ⟨_, _, _, rfl, rfl, rfl, rfl, rfl, ?_⟩
  exact (closed_in_pairs _ { closeGrace := 2 } _ _ _ _ rfl rfl).1

/-- The client's side breaks first and the server's next; of the two it is the server's that the call sees first. -/
def bothBroken : List Event :=
  untilOpened.map .free ++
    [.free (.work 0 (.forward (.relay (.flow .up (.readFails "connection reset"))))),
      .free (.work 0 (.forward (.relay (.flow .up .shut)))),
      .free (.work 0 (.forward (.relay (.flow .down (.readFails "broken pipe"))))),
      .free (.work 0 (.forward (.relay (.flow .down .shut)))), .free (.work 0 (.forward (.relay (.notice .down)))),
      .free (.work 0 (.forward .finish))]

/-- The end then has the error of the direction that broke last, though the other one had ended before it and had
failed. -/
theorem later_error_reported :
    ∃ m c b, (forRules [⟨"127.0.0.1", 8080, "db", 5432⟩] {}).run bothBroken = some m ∧
      m.service.connections[0]? = some c ∧ c.reached = .ended (some b) (.error (.system "broken pipe")) ∧
      Forwarder.EndedFirst .up (stamps 0 (forRules [⟨"127.0.0.1", 8080, "db", 5432⟩] {}) bothBroken) ∧
      (b.flow .up).outcome? = some (some "connection reset") ∧
      ¬ Forwarder.Settles b .up (.error (.system "broken pipe")) := by
  refine ⟨_, _, _, rfl, rfl, rfl, ⟨[⟨0, false, .opened⟩, ⟨0, false, .relay (.flow .up (.readFails "connection reset"))⟩],
    ⟨0, false, .relay (.flow .up .shut)⟩, _, rfl, rfl, by decide⟩, rfl, fun h => ?_⟩
  -- the direction that ended first has an error of its own, which would be the result
  have hresult := h.first "connection reset" rfl
  simp at hresult

end Timed

end SshTunnel

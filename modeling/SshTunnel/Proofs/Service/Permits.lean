import SshTunnel.Proofs.Service.Listing

/-!
Where the permits of a rule are: with its acceptor, free or in hand, or with its connections.  They only move, and
only by what is done for the rule.
-/

namespace SshTunnel

/-! ### Permits of an acceptor -/

namespace Acceptor

/-- How many permits it has made. -/
def made (a : Acceptor) : Nat :=
  match a.stage with
  | .starting | .broken => 0
  | _ => a.cap.getD 0

/-- A permit is in hand, if there is a cap. -/
def Stage.hasPermit : Stage → Bool
  | listening | holding _ | numbered .. | entered .. | counted .. | resting => true
  | _ => false

/-- It has a permit in hand where it should, and has not failed to make them without a reason. -/
structure Sound (a : Acceptor) : Prop where
  permit : a.permit = (a.cap.isSome && a.stage.hasPermit)
  broken : a.stage = .broken → ∃ n, a.cap = some n ∧ maxPermits < n

variable {a a' : Acceptor} {stopping : Bool} {m : Move} {lent : Nat}

/-- The books of one acceptor, where so many of its permits are lent to connections. -/
def Balanced (a : Acceptor) (lent : Nat) : Prop := a.Sound ∧ a.free + a.permit.toNat + lent = a.made

theorem balanced_fresh (cap : Option Nat) : Balanced { cap } 0 := ⟨⟨by simp [Stage.hasPermit], nofun⟩, rfl⟩

theorem Balanced.start (h : a.Balanced lent) (hs : a.stage = .starting) : a.start.Balanced lent := by
  obtain ⟨⟨hpermit, -⟩, hsum⟩ := h
  have hnone : a.permit = false := by simpa [hs, Stage.hasPermit] using hpermit
  have hzero : a.made = 0 := by rw [made, hs]
  unfold Acceptor.start
  split
  · rename_i hcap
    refine ⟨⟨by simp [hcap, hnone], nofun⟩, ?_⟩
    rw [hzero] at hsum
    simp only [made, hcap, Option.getD_none]
    exact hsum
  · rename_i n hcap
    split
    · rename_i hmax
      refine ⟨⟨by simp [hnone, Stage.hasPermit], fun _ => ⟨n, hcap, hmax⟩⟩, ?_⟩
      rw [hzero] at hsum
      exact hsum
    · refine ⟨⟨by simp [hnone, Stage.hasPermit], nofun⟩, ?_⟩
      rw [hzero] at hsum
      simp only [made, hcap, Option.getD_some, hnone, Bool.toNat_false]
      omega

/-- What it takes to put the permit in hand back. -/
theorem Balanced.putBack (h : a.Balanced lent) {stage : Stage} {backlog : List Client}
    (hmade : made { a with stage } = a.made) (hfree : stage.hasPermit = false) (hwhole : stage ≠ .broken) :
    Balanced { a.putBack with stage, backlog } lent := by
  obtain ⟨-, hsum⟩ := h
  refine ⟨⟨by simp [Acceptor.putBack, hfree], fun hb => absurd hb hwhole⟩, ?_⟩
  have hmade' : made { a.putBack with stage, backlog } = a.made := hmade
  rw [hmade', ← hsum]
  simp only [Acceptor.putBack]
  cases a.permit
  · simp
  · simp

/-- Waiting for a client, for a permit or for the end of a pause moves permits within the acceptor. -/
theorem Steps.balanced (h : a.Steps stopping m a') (hb : a.Balanced lent) : a'.Balanced lent := by
  have hpermit := hb.1.permit
  have hsum := hb.2
  -- what is free, in hand and lent adds up to what was made, and only the start makes permits
  cases h with
  | start hs => exact hb.start hs
  | pass hs hcap =>
    refine ⟨⟨by simpa [hs, hcap] using hpermit, nofun⟩, ?_⟩
    simpa [made, hs, hcap] using hsum
  | take n k hs hcap hfree =>
    have hnone : a.permit = false := by simpa [hs, Stage.hasPermit] using hpermit
    refine ⟨⟨by simp [hcap, Stage.hasPermit], nofun⟩, ?_⟩
    simp only [made, hs, hcap, hfree, hnone, Bool.toNat_false, Option.getD_some] at hsum
    simp only [made, hcap, Bool.toNat_true, Option.getD_some]
    omega
  | accept c cs hs hwait =>
    refine ⟨⟨by simpa [hs, Stage.hasPermit] using hpermit, nofun⟩, ?_⟩
    simpa [made, hs] using hsum
  | fail hs =>
    refine ⟨⟨by simpa [hs, Stage.hasPermit] using hpermit, nofun⟩, ?_⟩
    simpa [made, hs] using hsum
  | resume hs => exact hb.putBack (by simp [made, hs]) rfl nofun
  | quit hs =>
    refine hb.putBack ?_ rfl nofun
    rcases hs with hs | hs | hs
    · simp [made, hs]
    · simp [made, hs]
    · simp [made, hs]

/-- The stages of a registration are alike for the permit in hand. -/
theorem Balanced.setStage {stage : Stage} (h : a.Balanced lent) (hmade : made { a with stage } = a.made)
    (hpermit : stage.hasPermit = a.stage.hasPermit) (hwhole : stage ≠ .broken) : Balanced { a with stage } lent := by
  refine ⟨⟨?_, fun hb => absurd hb hwhole⟩, ?_⟩
  · rw [hpermit]
    exact h.1.permit
  · rw [hmade]
    exact h.2

end Acceptor

/-! ### Permits of a rule -/

/-- Where the permits of a rule are. -/
structure Permits where
  free : Nat
  /-- With the acceptor, for the next client. -/
  inHand : Nat
  /-- With connections. -/
  lent : Nat
deriving DecidableEq

def Permits.total (p : Permits) : Nat := p.free + p.inHand + p.lent

namespace Service

variable {s s' : Service} {m : Move} {ms : List Move} {rules : List Rule} {limits : Limits} {i j : Nat}
  {a a' : Acceptor} {t : TaskId} {c c' : Connection}

/-- How many permits of a rule are with connections. -/
def lent (s : Service) (i : Nat) : Nat := s.bookings.countP fun b => b.rule = i ∧ b.permit = true

/-- Where the permits of a rule are, once there is an acceptor for it. -/
def permits (s : Service) (i : Nat) : Option Permits :=
  s.acceptors[i]?.map fun a => ⟨a.free, a.permit.toNat, s.lent i⟩

theorem lent_congr (h : s'.bookings = s.bookings) (j : Nat) : s'.lent j = s.lent j := by
  unfold lent
  rw [h]

/-- A connection that keeps its permit. -/
theorem lent_setConnection (hc : s.connections[t]? = some c) (c' : Connection) (hrule : c'.rule = c.rule)
    (hpermit : c'.permit = c.permit) (j : Nat) : (s.setConnection t c').lent j = s.lent j := by
  obtain ⟨rest, hbefore, hafter⟩ := exists_perm_set hc c'
  have hsame : decide (c'.booking.rule = j ∧ c'.booking.permit = true) =
      decide (c.booking.rule = j ∧ c.booking.permit = true) := by
    refine decide_eq_decide.2 ?_
    rw [show c'.booking.rule = c.booking.rule from hrule, show c'.booking.permit = c.booking.permit from hpermit]
  unfold lent bookings setConnection
  rw [(hbefore.map _).countP_eq, (hafter.map _).countP_eq, List.map_cons, List.map_cons, List.countP_cons,
    List.countP_cons, hsame]

/-- A connection that gives its permit back. -/
theorem lent_returnPermit (hc : s.connections[t]? = some c) (hpermit : c.permit = true) (j : Nat) :
    (s.setConnection t { c with permit := false }).lent j + (if c.rule = j then 1 else 0) = s.lent j := by
  obtain ⟨rest, hbefore, hafter⟩ := exists_perm_set hc { c with permit := false }
  unfold lent bookings setConnection
  rw [(hbefore.map _).countP_eq, (hafter.map _).countP_eq, List.map_cons, List.map_cons, List.countP_cons,
    List.countP_cons]
  simp only [Connection.booking, hpermit, Bool.false_eq_true, and_false, decide_false, and_true, decide_eq_true_eq]
  rfl

theorem lent_append (s' : Service) (d : Connection) (h : s'.connections = s.connections ++ [d]) (j : Nat) :
    s'.lent j = s.lent j + (if d.rule = j then d.permit.toNat else 0) := by
  unfold lent bookings
  rw [h, List.map_append, List.countP_append]
  congr 1
  by_cases hrule : d.rule = j
  · cases hp : d.permit
    · simp [Connection.booking, hrule, hp]
    · simp [Connection.booking, hrule, hp]
  · simp [Connection.booking, hrule]

/-- What a move does to permits: nothing, or it makes the acceptors, or it moves permits of its own rule. -/
inductive Lending (s : Service) (m : Move) (s' : Service) : Prop
  | kept (hacc : s'.acceptors = s.acceptors) (hlent : ∀ j, s'.lent j = s.lent j)
  | bound (system : Listener.System) (hm : m = .start (.bind system))
      (hfresh : ∀ a ∈ s'.acceptors, ∃ cap, a = { cap }) (hlent : ∀ j, s'.lent j = 0)
  | moved (i : Nat) (a a' : Acceptor) (hm : s.ruleOf? m = some i) (ha : s.acceptors[i]? = some a)
      (hacc : s'.acceptors = s.acceptors.set i a') (hlent : ∀ j, i ≠ j → s'.lent j = s.lent j)
      (hnext : a.Balanced (s.lent i) → a'.Balanced (s'.lent i))

theorem lending_of_effect (h : Effect s m s') (hv : s.stage.isEarly = true → Vacant s) : Lending s m s' := by
  -- permits are lent when a client gets its task and come back at the end; other moves keep them in place
  cases h with
  | aside hm hsame =>
    exact .kept hsame.acceptors (lent_congr (congrArg (List.map Connection.booking) hsame.connections))
  | bound system ls hst hls =>
    have hvac := hv (by rw [hst]; rfl)
    refine .bound system rfl ?_ ?_
    · intro a ha
      obtain ⟨l, -, rfl⟩ := List.mem_map.1 ha
      exact ⟨_, rfl⟩
    · intro j
      simp only [lent, bookings, hvac.connections]
      rfl
  | abort lost hst => exact .kept rfl (lent_congr (s := s) (bookings_abortAll s))
  | connect i a peer ha hopen => exact .moved i a _ rfl ha rfl (fun _ _ => rfl) fun hb => ⟨⟨hb.1.1, hb.1.2⟩, hb.2⟩
  | clientSends n b => exact .kept rfl fun _ => rfl
  | channelSends t b => exact .kept rfl fun _ => rfl
  | accept i a a' am ha hstep => exact .moved i a a' rfl ha rfl (fun _ _ => rfl) hstep.balanced
  | number i a c ha hst =>
    exact .moved i a _ rfl ha rfl (fun _ _ => rfl) fun hb =>
      hb.setStage (by simp [Acceptor.made, hst]) (by rw [hst]; rfl) (by simp)
  | enter i a c id ha hst =>
    exact .moved i a _ rfl ha rfl (fun _ _ => rfl) fun hb =>
      hb.setStage (by simp [Acceptor.made, hst]) (by rw [hst]; rfl) (by simp)
  | count i a c id ha hst =>
    exact .moved i a _ rfl ha rfl (fun _ _ => rfl) fun hb =>
      hb.setStage (by simp [Acceptor.made, hst]) (by rw [hst]; rfl) (by simp)
  | spawn i a c id ha hst =>
    have hlent := lent_append (s := s)
      { s.setAcceptor i { a with stage := .spawned id s.connections.length, permit := false } with
          connections := s.connections ++ [{ client := c, id, rule := i, permit := a.permit }],
          channelStreams := s.channelStreams ++ [[]] } _ rfl
    refine .moved i a _ rfl ha rfl ?_ ?_
    · intro j hij
      rw [hlent, if_neg hij, Nat.add_zero]
    · -- the permit in hand goes over to the connection
      rintro ⟨-, hsum⟩
      rw [hlent, if_pos rfl]
      refine ⟨⟨by simp [Acceptor.Stage.hasPermit], by simp⟩, ?_⟩
      simp only [Acceptor.made, hst] at hsum
      simp only [Acceptor.made, Bool.toNat_false]
      omega
  | note i a id task ha hst =>
    exact .moved i a _ rfl ha rfl (fun _ _ => rfl) fun hb =>
      hb.setStage (by simp [Acceptor.made, hst]) (by rw [hst]; rfl) (by simp)
  | dial t c rule hc hrule hnew hlive =>
    exact .kept rfl (lent_setConnection hc { c with forwarder := some .dialing } rfl rfl)
  | work t cm c c' rule hm hc hrule hagree hwork =>
    have hbook := hwork.booking
    exact .kept rfl
      (lent_setConnection hc c' (congrArg Booking.rule hbook) (congrArg Booking.permit hbook))
  | remove t c hc hdone hheld hfirst =>
    exact .kept rfl (lent_setConnection hc { c with guard := .removed } rfl rfl)
  | countOut t c hc hremoved =>
    exact .kept rfl (lent_setConnection hc { c with guard := .released } rfl rfl)
  | returnPermit t c a hc ha hdone hpermit hlast =>
    have hlent := lent_returnPermit hc hpermit
    refine .moved c.rule a _ (by simp [ruleOf?, hc]) ha rfl ?_ ?_
    · intro j hij
      have hj := hlent j
      rw [if_neg hij, Nat.add_zero] at hj
      exact hj
    · -- one permit less is lent and one more is free
      rintro ⟨hsound, hsum⟩
      have hi := hlent c.rule
      rw [if_pos rfl] at hi
      refine ⟨⟨hsound.1, hsound.2⟩, ?_⟩
      have hmade : Acceptor.made { a with free := a.free + 1 } = a.made := rfl
      have hback : (((s.setConnection t { c with permit := false }).setAcceptor c.rule
        { a with free := a.free + 1 }).lent c.rule) = (s.setConnection t { c with permit := false }).lent c.rule := rfl
      rw [hmade, hback]
      dsimp only
      omega

theorem lending_of_step (h : (forRules rules limits).run ms = some s) (hs : s.step m = some s') : Lending s m s' :=
  lending_of_effect (effect_of_step hs) (vacant_of_run h)

/-- The books of all acceptors. -/
def Balanced (s : Service) : Prop := ∀ (i : Nat) (a : Acceptor), s.acceptors[i]? = some a → a.Balanced (s.lent i)

theorem Balanced.step (h : Balanced s) (hs : Lending s m s') : Balanced s' := by
  intro i b hb
  cases hs with
  | kept hacc hlent =>
    rw [hacc] at hb
    rw [hlent]
    exact h i b hb
  | bound system hm hfresh hlent =>
    obtain ⟨cap, rfl⟩ := hfresh b (List.mem_of_getElem? hb)
    rw [hlent]
    exact Acceptor.balanced_fresh cap
  | moved j a a' hm ha hacc hlent hnext =>
    rw [hacc] at hb
    rcases getElem?_set_eq_some hb with ⟨rfl, rfl⟩ | ⟨hne, hb⟩
    · exact hnext (h j a ha)
    · rw [hlent i hne]
      exact h i b hb

theorem balanced_of_run (h : (forRules rules limits).run ms = some s) : Balanced s := by
  refine run_induction (P := fun _ s => Balanced s) ?_ ?_ h
  · exact fun i a ha => by cases ha
  · exact fun _ _ _ _ hrun hbal hs => hbal.step (lending_of_step hrun hs)

/-- What is done for one rule leaves the permits of the others where they are. -/
theorem permits_of_lending (h : Lending s m s') (hm : ∀ system, m ≠ .start (.bind system)) (hj : s.ruleOf? m ≠ some j) :
    s'.permits j = s.permits j := by
  unfold permits
  cases h with
  | kept hacc hlent => rw [hacc, hlent]
  | bound system hbind => exact absurd hbind (hm system)
  | moved i a a' hi ha hacc hlent =>
    have hij : i ≠ j := fun heq => hj (heq ▸ hi)
    rw [hacc, List.getElem?_set_ne hij, hlent j hij]

end Service

end SshTunnel

import SshTunnel.Proofs.Relay.Failing
import SshTunnel.Proofs.Service.Apart
import SshTunnel.Proofs.Service.Capped

/-!
Every permit that is lent may come back, whatever its connection is at: its channel may be refused, and its relay may
fail on both sides.
-/

namespace SshTunnel

/-- A move that nobody else has a say in agrees with whatever was sent. -/
theorem Connection.agrees_of_isFree {bm : Bridge.Move} (h : bm.isFree = true) (c : Connection) (source : Way → Bytes) :
    c.agrees source (.forward (.relay bm)) = true := by
  cases bm with
  | flow w m =>
    cases m with
    | read chunk => cases h
    | readEnd => cases h
    | _ => rfl
  | _ => rfl

namespace Service

variable {s s' : Service} {ms : List Move} {rules : List Rule} {limits : Limits} {i : Nat} {a : Acceptor}
  {t : TaskId} {c c' : Connection} {rule : Rule}

/-- A connection whose task works, with a permit to give back. -/
structure Working (s : Service) (t : TaskId) (c : Connection) (rule : Rule) (a : Acceptor) : Prop where
  connection : s.connections[t]? = some c
  rule : s.rules[c.rule]? = some rule
  acceptor : s.acceptors[c.rule]? = some a
  live : c.done = false
  going : c.halted = false
  permit : c.permit = true

/-- A move of its forwarder. -/
theorem Working.forward (h : Working s t c rule a) {fm : Forwarder.Move} {f f' : Forwarder}
    (hf : c.forwarder = some f) (hagree : c.agrees (s.source t c) (.forward fm) = true)
    (hstep : f.step ⟨rule.remoteAddr, s.limits.dial⟩ s.isForced fm = some f') :
    ∃ s', s.step (.work t (.forward fm)) = some s' ∧ s'.permits c.rule = s.permits c.rule ∧
      Working s' t { c with forwarder := some f' } rule a := by
  have hmay : c.mayForward fm = true := by
    unfold Connection.mayForward
    split
    · rw [h.going]
      rfl
    · rw [h.live]
      rfl
  have hwork : c.work ⟨rule.remoteAddr, s.limits.dial⟩ s.isForced (.forward fm) =
      some { c with forwarder := some f' } := by
    simp [Connection.work, hf, hmay, hstep]
  refine ⟨{ s.setConnection t { c with forwarder := some f' } with
    roster := countBytes c { c with forwarder := some f' } s.roster }, ?_, ?_, ?_⟩
  · simp [step, work, h.connection, hagree, h.rule, hwork, setConnection]
  · exact permits_of_same rfl (lent_setConnection h.connection { c with forwarder := some f' } rfl rfl c.rule)
  · exact ⟨getElem?_set_of_getElem? h.connection _, h.rule, h.acceptor, h.live, h.going, h.permit⟩

/-- The first move of its task. -/
theorem Working.dial (h : Working s t c rule a) (hf : c.forwarder = none) :
    ∃ s', s.step (.work t .dial) = some s' ∧ s'.permits c.rule = s.permits c.rule ∧
      Working s' t { c with forwarder := some .dialing } rule a := by
  have hwork : c.work ⟨rule.remoteAddr, s.limits.dial⟩ s.isForced .dial =
      some { c with forwarder := some .dialing } := by
    simp [Connection.work, hf, h.live]
  have hagree : c.agrees (s.source t c) .dial = true := rfl
  refine ⟨{ s.setConnection t { c with forwarder := some .dialing } with
    dials := s.dials ++ [⟨t, rule.host, rule.port, c.client.peer⟩],
    roster := countBytes c { c with forwarder := some .dialing } s.roster }, ?_, ?_, ?_⟩
  · simp [step, work, h.connection, hagree, h.rule, hwork]
  · exact permits_of_same rfl (lent_setConnection h.connection { c with forwarder := some .dialing } rfl rfl c.rule)
  · exact ⟨getElem?_set_of_getElem? h.connection _, h.rule, h.acceptor, h.live, h.going, h.permit⟩

theorem Working.givesBack_of_ended (h : Working s t c rule a) {b : Option Bridge} {r : Except Failure Unit}
    (hf : c.forwarder = some (.ended b r)) : GivesBack s t c.rule :=
  givesBack_of_isOver h.connection h.rule h.acceptor (by simp [Connection.isOver, hf]) h.permit

/-- The relay fails on both sides. -/
theorem Working.givesBack_of_relaying {n : Nat} : ∀ {s : Service} {c : Connection} {b : Bridge},
    Working s t c rule a → c.forwarder = some (.relaying b) → b.toGo < n → GivesBack s t c.rule := by
  induction n with
  | zero => exact fun _ _ hn => absurd hn (Nat.not_lt_zero _)
  | succ n ih =>
    intro s c b h hf hn
    rcases b.exists_free s.isForced with ⟨bm, b', hfree, hstep, hless⟩ | ⟨e, he⟩
    · have hmove : Forwarder.step ⟨rule.remoteAddr, s.limits.dial⟩ s.isForced (.relaying b) (.relay bm) =
          some (.relaying b') := by
        simp [Forwarder.step, hstep]
      obtain ⟨s', hs, hp, hnext⟩ := h.forward hf (c.agrees_of_isFree hfree _) hmove
      exact (ih hnext rfl (by omega)).cons rfl hs hp
    · have hmove : Forwarder.step ⟨rule.remoteAddr, s.limits.dial⟩ s.isForced (.relaying b) .finish =
          some (.ended (some b.close) (Forwarder.resultOf e)) := by
        simp [Forwarder.step, he]
      obtain ⟨s', hs, hp, hnext⟩ := h.forward hf rfl hmove
      exact (hnext.givesBack_of_ended rfl).cons rfl hs hp

theorem Working.givesBack_of_dialing (h : Working s t c rule a) (hf : c.forwarder = some .dialing) :
    GivesBack s t c.rule := by
  have hrefused : Forwarder.step ⟨rule.remoteAddr, s.limits.dial⟩ s.isForced .dialing (.refused .disconnected) =
      some (.ended none (.error .disconnected)) := rfl
  obtain ⟨s', hs, hp, hnext⟩ := h.forward hf rfl hrefused
  exact (hnext.givesBack_of_ended rfl).cons rfl hs hp

theorem Working.givesBack_of_new (h : Working s t c rule a) (hf : c.forwarder = none) : GivesBack s t c.rule := by
  obtain ⟨s', hs, hp, hnext⟩ := h.dial hf
  exact (hnext.givesBack_of_dialing rfl).cons rfl hs hp

/-- Only a task that is over is halted. -/
theorem done_of_halted (h : (forRules rules limits).run ms = some s) (hc : c ∈ s.connections)
    (hhalted : c.halted = true) : c.done = true := by
  refine connections_of_run (P := fun c => c.halted = true → c.done = true) (fun _ _ _ => nofun) ?_ h c hc hhalted
  intro d d' hd hchange hhalted
  cases hchange with
  | work target force m _ hwork =>
    cases hwork with
    | halt hover => exact hover
    | finish => rfl
    | cancel => rfl
    | _ => exact hd hhalted
  | _ => exact hd hhalted

/-- **Whatever a connection is at, the permit it has may come back.** -/
theorem givesBack_of_run (h : (forRules rules limits).run ms = some s) (hc : s.connections[t]? = some c)
    (hpermit : c.permit = true) : GivesBack s t c.rule := by
  obtain ⟨a, ha⟩ := (placed_of_run h).exists_acceptor hc
  obtain ⟨rule, hrule⟩ := exists_rule_of_run h hc
  cases hdone : c.done with
  | true => exact givesBack_of_done hc ha hdone hpermit
  | false =>
    have hgoing : c.halted = false := by
      by_contra hne
      rw [done_of_halted h (List.mem_of_getElem? hc) (by simpa using hne)] at hdone
      cases hdone
    have hworking : Working s t c rule a := ⟨hc, hrule, ha, hdone, hgoing, hpermit⟩
    cases hf : c.forwarder with
    | none => exact hworking.givesBack_of_new hf
    | some f =>
      cases f with
      | dialing => exact hworking.givesBack_of_dialing hf
      | relaying b => exact hworking.givesBack_of_relaying hf (Nat.lt_succ_self _)
      | ended b r => exact hworking.givesBack_of_ended hf

/-- The connection that a permit was lent to. -/
theorem exists_borrower (hlent : 0 < s.lent i) :
    ∃ (t : TaskId) (c : Connection), s.connections[t]? = some c ∧ c.rule = i ∧ c.permit = true := by
  obtain ⟨b, hb, hat⟩ := List.countP_pos_iff.1 hlent
  obtain ⟨c, hc, rfl⟩ := List.mem_map.1 hb
  obtain ⟨t, ht⟩ := List.getElem?_of_mem hc
  obtain ⟨hrule, hpermit⟩ : c.booking.rule = i ∧ c.booking.permit = true := by simpa using hat
  exact ⟨t, c, ht, hrule, hpermit⟩

/-- A permit comes back to an acceptor that has none, which is where it was otherwise. -/
theorem exists_permit_back (h : (forRules rules limits).run ms = some s) (ha : s.acceptors[i]? = some a)
    (hlent : 0 < s.lent i) :
    ∃ more s' a', s.run more = some s' ∧ s'.acceptors[i]? = some a' ∧ a'.stage = a.stage ∧ 0 < a'.free := by
  obtain ⟨t, c, hc, rfl, hpermit⟩ := exists_borrower hlent
  obtain ⟨more, s', p, hown, hr, -, hafter⟩ := givesBack_of_run h hc hpermit
  obtain ⟨a', ha', hshown⟩ := Option.map_eq_some_iff.1 hafter
  have hfree : a'.free = p.free + 1 := congrArg Permits.free hshown
  have hline : s'.acceptors[c.rule]?.map Acceptor.line = s.acceptors[c.rule]?.map Acceptor.line := by
    rw [← List.getElem?_map, ← List.getElem?_map, (apart_of_run hc hown hr).lines]
  rw [ha', ha, Option.map_some, Option.map_some] at hline
  exact ⟨more, s', a', hr, ha', congrArg Prod.fst (Option.some.inj hline), by omega⟩

end Service

end SshTunnel

import SshTunnel.Proofs.Service.Seats

/-!
Entries against registrations.  No id has two entries, and every entry is of a registration that ought to have one;
as long as fewer ids were given out than there are, every registration that ought to have an entry has it, and no two
registrations share an id.
-/

namespace SshTunnel.Service

variable {s s' : Service} {m : Move} {ms : List Move} {rules : List Rule} {limits : Limits} {x y : Seat}
  {rest : List Seat} {i : Nat} {t : TaskId} {c : Connection}

/-! ### Every entry -/

/-- Every entry is of a registration, and no other has its id. -/
structure Seated (s : Service) : Prop where
  nodup : (s.roster.seats.map Seat.id).Nodup
  subset : ∀ x ∈ s.roster.seats, x ∈ s.seats

/-- An entry of another registration than the one that changes is of one that stays. -/
theorem Seated.mem_rest {b : Bool} (h : Seated s) (hbefore : s.seats.Perm ({ x with listed := b } :: rest))
    (hy : y ∈ s.roster.seats) (hne : y.listed = b → y.id ≠ x.id) : y ∈ rest := by
  rcases List.mem_cons.1 (hbefore.mem_iff.1 (h.subset y hy)) with rfl | hin
  · exact absurd rfl (hne rfl)
  · exact hin

theorem Seated.step (h : Seated s) (hs : Seating s s') : Seated s' := by
  cases hs with
  | same hseats hentries hnext =>
    refine ⟨by rw [hentries]; exact h.nodup, fun y hy => ?_⟩
    rw [hentries] at hy
    exact hseats.mem_iff.2 (h.subset y hy)
  | number rule peer hseats hentries hnext =>
    refine ⟨by rw [hentries]; exact h.nodup, fun y hy => ?_⟩
    rw [hentries] at hy
    exact hseats.mem_iff.2 (List.mem_cons_of_mem _ (h.subset y hy))
  | enter x rest hbefore hafter hentries hnext =>
    refine ⟨?_, ?_⟩
    · rw [hentries, List.map_append, List.map_singleton, List.nodup_append]
      refine ⟨h.nodup.sublist (List.filter_sublist.map _), List.nodup_singleton _, ?_⟩
      intro k hk k' hk'
      obtain ⟨y, hy, rfl⟩ := List.mem_map.1 hk
      rw [List.mem_singleton.1 hk']
      simpa using (List.mem_filter.1 hy).2
    · intro y hy
      rw [hentries] at hy
      refine hafter.mem_iff.2 ?_
      rcases List.mem_append.1 hy with hy | hy
      · have hin := (List.mem_filter.1 hy).1
        refine List.mem_cons_of_mem _ (h.mem_rest hbefore hin fun hlisted => ?_)
        rw [Roster.listed_of_mem_seats hin] at hlisted
        cases hlisted
      · rw [List.mem_singleton.1 hy]
        exact List.mem_cons_self ..
  | leave x rest hbefore hafter hentries hnext =>
    refine ⟨?_, ?_⟩
    · rw [hentries]
      exact h.nodup.sublist (List.filter_sublist.map _)
    · intro y hy
      rw [hentries] at hy
      obtain ⟨hin, hne⟩ := List.mem_filter.1 hy
      exact hafter.mem_iff.2 (List.mem_cons_of_mem _ (h.mem_rest hbefore hin fun _ => by simpa using hne))

theorem seated_of_run (h : (forRules rules limits).run ms = some s) : Seated s := by
  refine run_induction (P := fun _ s => Seated s) ?_ ?_ h
  · exact ⟨List.nodup_nil, fun x hx => absurd hx List.not_mem_nil⟩
  · exact fun _ _ _ _ hrun hseated hs => hseated.step (seating_of_step hrun hs)

/-! ### Ids -/

/-- Ids are given out in their order, beginning with 1. -/
structure Numbered (s : Service) : Prop where
  next : s.roster.nextId = UInt64.ofNat (s.registered + 1)
  ids : (s.seats.map Seat.id).Perm ((List.range s.registered).map fun k => UInt64.ofNat (k + 1))

theorem Numbered.step (h : Numbered s) (hs : Seating s s') : Numbered s' := by
  obtain ⟨hnext, hids⟩ := h
  -- to enter and to leave only mark a seat, so its id stands where it stood
  have hsame : ∀ {x y : Seat} {rest : List Seat}, y.id = x.id → s.seats.Perm (x :: rest) →
      s'.seats.Perm (y :: rest) → s'.roster.nextId = s.roster.nextId → Numbered s' := by
    intro x y rest hid hbefore hafter hnext'
    have hlen : s'.registered = s.registered := by
      unfold registered
      rw [hafter.length_eq, hbefore.length_eq, List.length_cons, List.length_cons]
    refine ⟨by rw [hnext', hlen, hnext], ?_⟩
    have hmap := (hafter.map Seat.id).trans
      ((List.Perm.of_eq (by rw [List.map_cons, List.map_cons, hid])).trans (hbefore.map Seat.id).symm)
    rw [hlen]
    exact hmap.trans hids
  cases hs with
  | same hseats hentries hnext' =>
    have hlen : s'.registered = s.registered := hseats.length_eq
    refine ⟨by rw [hnext', hlen, hnext], ?_⟩
    rw [hlen]
    exact (hseats.map Seat.id).trans hids
  | number rule peer hseats hentries hnext' =>
    have hlen : s'.registered = s.registered + 1 := hseats.length_eq
    refine ⟨?_, ?_⟩
    · rw [hnext', hlen, hnext, UInt64.ofNat_add (s.registered + 1) 1]
      rfl
    · rw [hlen, List.range_succ, List.map_append, List.map_singleton, ← hnext]
      refine (hseats.map Seat.id).trans ?_
      exact (hids.cons _).trans (List.perm_append_singleton _ _).symm
  | enter x rest hbefore hafter hentries hnext' =>
    exact hsame (x := { x with listed := false }) (y := { x with listed := true }) rfl hbefore hafter hnext'
  | leave x rest hbefore hafter hentries hnext' =>
    exact hsame (x := { x with listed := true }) (y := { x with listed := false }) rfl hbefore hafter hnext'

theorem numbered_of_run (h : (forRules rules limits).run ms = some s) : Numbered s := by
  refine run_induction (P := fun _ s => Numbered s) ?_ ?_ h
  · exact ⟨rfl, .refl _⟩
  · exact fun _ _ _ _ hrun hnum hs => hnum.step (seating_of_step hrun hs)

/-- Fewer registrations than ids: each has its own. -/
theorem Numbered.nodup (h : Numbered s) (hb : s.registered < 2 ^ 64) : (s.seats.map Seat.id).Nodup := by
  rw [h.ids.nodup_iff]
  refine List.Nodup.map_on ?_ List.nodup_range
  intro j hj k hk heq
  have hlt : ∀ {n}, n ∈ List.range s.registered → n + 1 < UInt64.size := by
    intro n hn
    exact Nat.lt_of_le_of_lt (List.mem_range.1 hn) hb
  have htoNat := congrArg UInt64.toNat heq
  rw [UInt64.toNat_ofNat_of_lt' (hlt hj), UInt64.toNat_ofNat_of_lt' (hlt hk)] at htoNat
  exact Nat.succ.inj htoNat

/-! ### Every registration -/

/-- Every registration that ought to have an entry has it. -/
def Complete (s : Service) : Prop := ∀ x ∈ s.seats, x.listed = true → x ∈ s.roster.seats

theorem id_ne_of_mem_rest {b : Bool} (hn : (s.seats.map Seat.id).Nodup)
    (hbefore : s.seats.Perm ({ x with listed := b } :: rest)) (hy : y ∈ rest) : y.id ≠ x.id := by
  have hn' := (hbefore.map Seat.id).nodup_iff.1 hn
  rw [List.map_cons, List.nodup_cons] at hn'
  intro heq
  exact hn'.1 (heq ▸ List.mem_map_of_mem hy)

theorem Complete.step (h : Complete s) (hn : (s.seats.map Seat.id).Nodup) (hs : Seating s s') : Complete s' := by
  intro y hy hlisted
  cases hs with
  | same hseats hentries hnext =>
    rw [hentries]
    exact h y (hseats.mem_iff.1 hy) hlisted
  | number rule peer hseats hentries hnext =>
    rw [hentries]
    rcases List.mem_cons.1 (hseats.mem_iff.1 hy) with rfl | hin
    · cases hlisted
    · exact h y hin hlisted
  | enter x rest hbefore hafter hentries hnext =>
    rw [hentries]
    rcases List.mem_cons.1 (hafter.mem_iff.1 hy) with rfl | hin
    · exact List.mem_append_right _ (List.mem_singleton_self _)
    · -- entering takes out what had the same id before, and nobody else has it
      have hthere := h y (hbefore.mem_iff.2 (List.mem_cons_of_mem _ hin)) hlisted
      refine List.mem_append_left _ (List.mem_filter.2 ⟨hthere, ?_⟩)
      simpa using id_ne_of_mem_rest hn hbefore hin
  | leave x rest hbefore hafter hentries hnext =>
    rw [hentries]
    rcases List.mem_cons.1 (hafter.mem_iff.1 hy) with rfl | hin
    · cases hlisted
    · have hthere := h y (hbefore.mem_iff.2 (List.mem_cons_of_mem _ hin)) hlisted
      refine List.mem_filter.2 ⟨hthere, ?_⟩
      simpa using id_ne_of_mem_rest hn hbefore hin

theorem registered_le (hs : Seating s s') : s.registered ≤ s'.registered := by
  unfold registered
  cases hs with
  | same hseats => exact Nat.le_of_eq hseats.length_eq.symm
  | number rule peer hseats =>
    rw [hseats.length_eq, List.length_cons]
    exact Nat.le_succ _
  | enter x rest hbefore hafter => exact Nat.le_of_eq (hbefore.length_eq.trans hafter.length_eq.symm)
  | leave x rest hbefore hafter => exact Nat.le_of_eq (hbefore.length_eq.trans hafter.length_eq.symm)

theorem complete_of_run (h : (forRules rules limits).run ms = some s) (hb : s.registered < 2 ^ 64) : Complete s := by
  revert hb
  refine run_induction (P := fun _ s => s.registered < 2 ^ 64 → Complete s) ?_ ?_ h
  · exact fun _ x hx => absurd hx List.not_mem_nil
  · intro _ _ s s' hrun hcomplete hs hb
    have hseating := seating_of_step hrun hs
    have hbefore : s.registered < 2 ^ 64 := Nat.lt_of_le_of_lt (registered_le hseating) hb
    exact (hcomplete hbefore).step ((numbered_of_run hrun).nodup hbefore) hseating

/-! ### Entries of a rule -/

/-- Entries of a rule are of the connection that its acceptor is registering, or of connections that have not left
the roster. -/
theorem Seated.activeFor_le {a : Acceptor} (h : Seated s) (ha : s.acceptors[i]? = some a) :
    s.roster.activeFor i ≤ (a.seat? i).toList.countP Seat.listed +
      s.bookings.countP fun b => b.rule = i ∧ b.guard = .held := by
  have hsub : (s.roster.seats.filter fun x => x.rule = i).Subperm
      (s.seats.filter fun x => x.rule = i ∧ x.listed = true) := by
    refine List.subperm_of_subset ((List.Nodup.of_map _ h.nodup).filter _) fun x hx => ?_
    obtain ⟨hin, hrule⟩ := List.mem_filter.1 hx
    have hlisted := Roster.listed_of_mem_seats hin
    exact List.mem_filter.2 ⟨h.subset x hin, by simpa [hlisted] using hrule⟩
  have hle := hsub.length_le
  rw [← List.countP_eq_length_filter, ← List.countP_eq_length_filter, ← Roster.activeFor_eq_seats] at hle
  refine Nat.le_trans hle ?_
  unfold seats
  rw [List.countP_append, List.countP_map]
  have hacc : ((s.acceptors.mapIdx Acceptor.seat?).filterMap id).countP
      (fun x => decide (x.rule = i ∧ x.listed = true)) ≤ (a.seat? i).toList.countP Seat.listed := by
    rw [countP_mapIdx_of_only (i := i), ha]
    · refine List.countP_mono_left fun x _ hx => ?_
      exact (of_decide_eq_true hx).2
    · intro j b x hx hp
      rw [← Acceptor.rule_of_seat? hx]
      exact (of_decide_eq_true hp).1
  refine Nat.add_le_add hacc (Nat.le_of_eq ?_)
  refine List.countP_congr fun b _ => ?_
  rw [Function.comp, decide_eq_true_eq, decide_eq_true_eq]
  exact and_congr_right fun _ => decide_eq_true_iff

/-- No entry has a rule that there is no acceptor for. -/
theorem Seated.activeFor_eq_zero (h : Seated s) (hp : Placed s) (hi : s.acceptors.length ≤ i) :
    s.roster.activeFor i = 0 := by
  rw [Roster.activeFor_eq_seats, List.countP_eq_zero]
  intro x hx hrule
  have hlt : x.rule < s.acceptors.length := by
    rcases List.mem_append.1 (h.subset x hx) with hacc | hbook
    · obtain ⟨o, ho, rfl⟩ := List.mem_filterMap.1 hacc
      obtain ⟨j, hj, hseat⟩ := List.mem_mapIdx.1 ho
      rw [Acceptor.rule_of_seat? hseat]
      exact hj
    · obtain ⟨b, hb, rfl⟩ := List.mem_map.1 hbook
      exact hp.bookings b hb
  have heq : x.rule = i := of_decide_eq_true hrule
  omega

/-- Where no acceptor is open, nobody gets onto the roster. -/
theorem seats_sublist_of_closed {p : Nat → Bool} (h : Effect s m s')
    (hclosed : ∀ (i : Nat) (a : Acceptor), p i = true → s'.acceptors[i]? = some a → a.isOpen = false) :
    (s'.roster.seats.filter fun x => p x.rule).Sublist (s.roster.seats.filter fun x => p x.rule) := by
  cases h with
  | aside hm hsame =>
    rw [hsame.roster]
  | enter j a c id ha hst =>
    have hj : p j = false := by
      by_contra hp
      exact absurd (hclosed j _ (by simpa using hp) (getElem?_set_of_getElem? ha _)) (by simp [Acceptor.isOpen])
    dsimp only
    rw [Roster.seats_insert, List.filter_append, List.filter_cons_of_neg (by simp [Roster.Entry.seat, hj]),
      List.filter_nil, List.append_nil]
    exact List.filter_sublist.filter _
  | note j a id task ha hst =>
    dsimp only
    rw [Roster.seats_attach]
  | remove t c hc hdone hheld hfirst =>
    dsimp only
    rw [Roster.seats_remove]
    exact List.filter_sublist.filter _
  | _ => exact .refl _

end SshTunnel.Service

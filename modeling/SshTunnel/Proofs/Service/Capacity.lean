import SshTunnel.Proofs.Service.Permits

/-!
The cap on the connections of a rule.  The permits of a rule always add up to the cap, a connection gives its
permit back once, and there are never more entries of a rule than permits.
-/

namespace SshTunnel

/-! ### One connection -/

namespace Connection

/-- What a connection does after it was accepted, by itself or told to. -/
inductive Changes (c : Connection) : Connection → Prop
  | work (target : Forwarder.Target) (force : Bool) (m : Move) (c' : Connection)
      (h : c.Works target force m c') : Changes c c'
  | abort : Changes c { c with aborted := true }
  | remove (hdone : c.done = true) (hheld : c.guard = .held) : Changes c { c with guard := .removed }
  | countOut (hremoved : c.guard = .removed) : Changes c { c with guard := .released }
  | returnPermit (hdone : c.done = true) (hpermit : c.permit = true)
      (hlast : c.forwarder = none ∨ c.guard = .released) : Changes c { c with permit := false }

variable {c c' : Connection} {capped : Bool}

section Works

variable {target : Forwarder.Target} {force : Bool} {m : Move}

theorem Works.aborted (h : c.Works target force m c') : c'.aborted = c.aborted := by
  cases h with
  | _ => rfl

theorem Works.done (h : c.Works target force m c') (hdone : c.done = true) : c'.done = true := by
  cases h with
  | finish => rfl
  | cancel => rfl
  | _ => exact hdone

/-- A task that is over and has never run was over before, or was aborted. -/
theorem Works.over (h : c.Works target force m c') (hdone : c'.done = true) (hnew : c'.forwarder = none) :
    c.aborted = true ∨ c.done = true ∧ c.forwarder = none := by
  cases h with
  | dial => cases hnew
  | skip => cases hnew
  | forward => cases hnew
  | finish b r hf =>
    have hnone : c.forwarder = none := hnew
    rw [hf] at hnone
    cases hnone
  | cancel habort => exact Or.inl habort
  | halt hover => exact Or.inr ⟨hover, hnew⟩

end Works

/-- A task is over without having run only if it was aborted, and only then can its permit be gone while its entry
is there. -/
structure Orderly (capped : Bool) (c : Connection) : Prop where
  ran : c.done = true → c.forwarder = none → c.aborted = true
  paid : capped = true → c.guard = .held → c.permit = false → c.aborted = true

theorem Orderly.changes (h : c.Orderly capped) (hc : c.Changes c') : c'.Orderly capped := by
  cases hc with
  | work target force m _ hwork =>
    have hbook := hwork.booking
    refine ⟨fun hdone hnew => ?_, fun hcap hheld hgone => ?_⟩
    · rw [hwork.aborted]
      rcases hwork.over hdone hnew with habort | ⟨hbefore, hnone⟩
      · exact habort
      · exact h.ran hbefore hnone
    · rw [hwork.aborted]
      have hguard : c'.guard = c.guard := congrArg Booking.guard hbook
      have hpermit : c'.permit = c.permit := congrArg Booking.permit hbook
      exact h.paid hcap (hguard ▸ hheld) (hpermit ▸ hgone)
  | abort => exact ⟨fun _ _ => rfl, fun _ _ _ => rfl⟩
  | remove hdone hheld => exact ⟨h.ran, nofun⟩
  | countOut hremoved => exact ⟨h.ran, nofun⟩
  | returnPermit hdone hpermit hlast =>
    -- a permit is given back last: the entry is gone by then, unless the task never ran
    refine ⟨h.ran, fun _ hheld _ => ?_⟩
    rcases hlast with hnone | hreleased
    · exact h.ran hdone hnone
    · have hheld' : c.guard = .held := hheld
      rw [hreleased] at hheld'
      cases hheld'

end Connection

/-! ### All connections -/

namespace Service

variable {s s' : Service} {m : Move} {ms : List Move} {rules : List Rule} {limits : Limits} {i : Nat}
  {a : Acceptor} {t : TaskId} {c : Connection}

/-- An acceptor hands on a permit just if there is a cap. -/
theorem permit_of_counted {id : UInt64} {cl : Client} (h : (forRules rules limits).run ms = some s)
    (ha : s.acceptors[i]? = some a) (hst : a.stage = .counted cl id) : a.permit = limits.maxConnections.isSome := by
  have hpermit := (balanced_of_run h i a ha).1.permit
  rw [(placed_of_run h).cap ha, limits_of_run h, hst] at hpermit
  simpa [Acceptor.Stage.hasPermit] using hpermit

/-- What holds of a connection at first and is kept by all that it does holds of every connection. -/
theorem connections_of_run {P : Connection → Prop}
    (hnew : ∀ client id rule, P { client, id, rule, permit := limits.maxConnections.isSome })
    (hkeep : ∀ c c' : Connection, P c → c.Changes c' → P c') (h : (forRules rules limits).run ms = some s) :
    ∀ c ∈ s.connections, P c := by
  refine run_induction (P := fun _ s => ∀ c ∈ s.connections, P c) ?_ ?_ h
  · exact fun c hc => absurd hc List.not_mem_nil
  intro ms m s s' hrun hall hs
  -- a move is about one connection, and the others stay what they are
  have hset : ∀ {t : TaskId} {c c' : Connection}, s.connections[t]? = some c → c.Changes c' →
      ∀ d ∈ s.connections.set t c', P d := by
    intro t c c' hc hchange d hd
    rcases List.mem_or_eq_of_mem_set hd with hd | rfl
    · exact hall d hd
    · exact hkeep c _ (hall c (List.mem_of_getElem? hc)) hchange
  cases effect_of_step hs with
  | aside hm hsame =>
    rw [hsame.connections]
    exact hall
  | abort lost hst =>
    -- whoever is live is aborted
    intro d hd
    obtain ⟨t, ht, rfl⟩ := List.mem_mapIdx.1 hd
    split
    · exact hkeep _ _ (hall _ (List.getElem_mem ht)) .abort
    · exact hall _ (List.getElem_mem ht)
  | spawn i a cl id ha hst =>
    intro d hd
    rcases List.mem_append.1 hd with hd | hd
    · exact hall d hd
    · rw [List.mem_singleton.1 hd, permit_of_counted hrun ha hst]
      exact hnew cl id i
  | dial t c rule hc hrule hidle hlive =>
    exact hset hc (.work ⟨rule.remoteAddr, s.limits.dial⟩ s.isForced .dial _ (.dial hidle hlive))
  | work t cm c c' rule hm hc hrule hagree hwork => exact hset hc (.work _ _ cm c' hwork)
  | remove t c hc hdone hheld hfirst => exact hset hc (.remove hdone hheld)
  | countOut t c hc hremoved => exact hset hc (.countOut hremoved)
  | returnPermit t c a hc ha hdone hpermit hlast => exact hset hc (.returnPermit hdone hpermit hlast)
  | _ => exact hall

theorem orderly_of_run (h : (forRules rules limits).run ms = some s) :
    ∀ c ∈ s.connections, c.Orderly limits.maxConnections.isSome := by
  refine connections_of_run ?_ (fun _ _ horderly hc => horderly.changes hc) h
  exact fun client id rule => ⟨nofun, fun hcap _ hgone => absurd hcap (by simpa using hgone)⟩

/-- Connections are aborted only when all acceptors have ended. -/
theorem isJoined_of_aborted (h : (forRules rules limits).run ms = some s) :
    ∀ c ∈ s.connections, c.aborted = true → s.stage.isJoined = true := by
  refine run_induction (P := fun _ s => ∀ c ∈ s.connections, c.aborted = true → s.stage.isJoined = true) ?_ ?_ h
  · exact fun c hc => absurd hc List.not_mem_nil
  intro ms m s s' hrun hall hs
  -- only the abort itself marks a connection, and it comes after the end of all acceptors
  have hset : ∀ {t : TaskId} {c c' : Connection}, s.connections[t]? = some c → c'.aborted = c.aborted →
      ∀ d ∈ s.connections.set t c', d.aborted = true → s'.stage.isJoined = true := by
    intro t c c' hc hsame d hd habort
    rcases List.mem_or_eq_of_mem_set hd with hd | rfl
    · exact isJoined_of_step hs (hall d hd habort)
    · exact isJoined_of_step hs (hall c (List.mem_of_getElem? hc) (hsame ▸ habort))
  cases effect_of_step hs with
  | aside hm hsame =>
    rw [hsame.connections]
    exact fun d hd habort => isJoined_of_step hs (hall d hd habort)
  | abort lost hst => exact fun _ _ _ => rfl
  | spawn i a cl id ha hst =>
    intro d hd habort
    rcases List.mem_append.1 hd with hd | hd
    · exact hall d hd habort
    · rw [List.mem_singleton.1 hd] at habort
      cases habort
  | dial t c rule hc hrule hidle hlive => exact hset hc rfl
  | work t cm c c' rule hm hc hrule hagree hwork => exact hset hc hwork.aborted
  | remove t c hc hdone hheld hfirst => exact hset hc rfl
  | countOut t c hc hremoved => exact hset hc rfl
  | returnPermit t c a hc ha hdone hpermit hlast => exact hset hc rfl
  | bound system ls hst hls =>
    intro d hd habort
    have hbefore := hall d hd habort
    rw [hst] at hbefore
    cases hbefore
  | _ => exact hall

/-! ### Entries against permits -/

/-- As long as an acceptor is open, whoever is on the roster for its rule has a permit. -/
theorem activeFor_le_of_isOpen {n : Nat} (h : (forRules rules limits).run ms = some s)
    (hcap : limits.maxConnections = some n) (ha : s.acceptors[i]? = some a) (hopen : a.isOpen = true) :
    s.roster.activeFor i ≤ n := by
  have hcap' : a.cap = some n := by rw [(placed_of_run h).cap ha, limits_of_run h, hcap]
  obtain ⟨⟨hpermit, -⟩, hsum⟩ := balanced_of_run h i a ha
  -- of the permits that were made, those in hand and those lent cover every entry
  have hmade : a.made ≤ n := by
    unfold Acceptor.made
    split
    · exact Nat.zero_le n
    · exact Nat.zero_le n
    · rw [hcap']
      exact Nat.le_refl n
  have hregistering : (a.seat? i).toList.countP Seat.listed ≤ a.permit.toNat := by
    rw [hpermit, hcap']
    unfold Acceptor.seat?
    split
    · exact Nat.zero_le _
    · rename_i hst
      rw [hst]
      exact Nat.le_refl 1
    · rename_i hst
      rw [hst]
      exact Nat.le_refl 1
    · exact Nat.zero_le _
  -- an entry without a permit would be that of an aborted task, and then no acceptor is open
  have hheld : (s.bookings.countP fun b => b.rule = i ∧ b.guard = .held) ≤ s.lent i := by
    refine List.countP_mono_left fun b hb hp => ?_
    obtain ⟨hrule, hguard⟩ := of_decide_eq_true hp
    obtain ⟨c, hc, rfl⟩ := List.mem_map.1 hb
    refine decide_eq_true ⟨hrule, ?_⟩
    by_contra hgone
    have habort := (orderly_of_run h c hc).paid (by rw [hcap]; rfl) hguard ((Bool.not_eq_true c.permit).mp hgone)
    have hclosed := (lawful_of_run h).closed_of_isJoined (isJoined_of_aborted h c hc habort)
    exact closed_of_open ha hopen hclosed
  have hle := (seated_of_run h).activeFor_le ha
  omega

theorem activeFor_le_cap {n : Nat} (h : (forRules rules limits).run ms = some s)
    (hcap : limits.maxConnections = some n) (i : Nat) : s.roster.activeFor i ≤ n := by
  refine run_induction (P := fun _ s => s.roster.activeFor i ≤ n) ?_ ?_ h
  · exact Nat.zero_le n
  intro ms m s s' hrun hle hs
  have hrun' := run_snoc hrun hs
  cases ha : s'.acceptors[i]? with
  | none =>
    have hout := List.getElem?_eq_none_iff.1 ha
    rw [(seated_of_run hrun').activeFor_eq_zero (placed_of_run hrun') hout]
    exact Nat.zero_le n
  | some a =>
    -- a closed acceptor registers nobody, so that its entries can only get fewer
    by_cases hopen : a.isOpen = true
    · exact activeFor_le_of_isOpen hrun' hcap ha hopen
    · have hsub := seats_sublist_of_closed (p := fun j => j = i) (effect_of_step hs) fun j b hj hb => by
        obtain rfl := of_decide_eq_true hj
        rw [ha] at hb
        rw [← Option.some.inj hb]
        simpa using hopen
      have hfewer := hsub.length_le
      rw [← List.countP_eq_length_filter, ← List.countP_eq_length_filter, ← Roster.activeFor_eq_seats,
        ← Roster.activeFor_eq_seats] at hfewer
      exact Nat.le_trans hfewer hle

/-! ### Giving back -/

/-- The connection that gives its permit back. -/
def Move.returned? : Move → Option TaskId
  | .letGo t .returnPermit => some t
  | _ => none

/-- How often a connection has given its permit back. -/
def returns (ms : List Move) (t : TaskId) : Nat := (ms.filterMap Move.returned?).count t

theorem returns_snoc (ms : List Move) (m : Move) (t : TaskId) :
    returns (ms ++ [m]) t = returns ms t + if m.returned? = some t then 1 else 0 := by
  unfold returns
  rw [List.filterMap_append, List.count_append]
  cases hm : m.returned? with
  | none => simp [hm]
  | some u => simp [hm, List.count_singleton]

theorem returns_snoc_of_none (hm : m.returned? = none) (t : TaskId) : returns (ms ++ [m]) t = returns ms t := by
  rw [returns_snoc, hm]
  simp

/-- A permit is with its connection or was given back once; nothing was given back that was not there. -/
structure Settled (capped : Bool) (ms : List Move) (s : Service) : Prop where
  once : ∀ t b, s.bookings[t]? = some b → returns ms t + b.permit.toNat = capped.toNat
  none : ∀ t, s.bookings.length ≤ t → returns ms t = 0

theorem Settled.same {capped : Bool} (h : Settled capped ms s) (hm : m.returned? = .none)
    (hbook : s'.bookings.map Booking.permit = s.bookings.map Booking.permit) : Settled capped (ms ++ [m]) s' := by
  have hreturns : ∀ t, returns (ms ++ [m]) t = returns ms t := returns_snoc_of_none hm
  refine ⟨fun t b hb => ?_, fun t ht => ?_⟩
  · have hpermit : (s.bookings.map Booking.permit)[t]? = some b.permit := by
      rw [← hbook, List.getElem?_map, hb]
      rfl
    obtain ⟨b', hb', hsame⟩ := Option.map_eq_some_iff.1 ((List.getElem?_map ..).symm.trans hpermit)
    rw [hreturns, ← hsame]
    exact h.once t b' hb'
  · have hlen := congrArg List.length hbook
    rw [List.length_map, List.length_map] at hlen
    rw [hreturns]
    exact h.none t (hlen ▸ ht)

/-- A new connection has given nothing back so far. -/
theorem Settled.join {capped : Bool} {b : Booking} (h : Settled capped ms s) (hm : m.returned? = .none)
    (hpermit : b.permit = capped) (hbook : s'.bookings = s.bookings ++ [b]) : Settled capped (ms ++ [m]) s' := by
  have hreturns : ∀ t, returns (ms ++ [m]) t = returns ms t := returns_snoc_of_none hm
  refine ⟨fun t d hd => ?_, fun t ht => ?_⟩
  · rw [hbook] at hd
    rw [hreturns]
    -- it is the last one
    by_cases ht : t < s.bookings.length
    · rw [List.getElem?_append_left ht] at hd
      exact h.once t d hd
    · have hlast := Nat.le_of_not_lt ht
      rw [List.getElem?_append_right hlast, List.getElem?_singleton] at hd
      split at hd
      · obtain rfl := Option.some.inj hd
        rw [h.none t hlast, hpermit]
        exact Nat.zero_add _
      · cases hd
  · rw [hbook, List.length_append] at ht
    rw [hreturns]
    exact h.none t (Nat.le_trans (Nat.le_add_right _ _) ht)

/-- A connection that has its permit gives it back for the first time. -/
theorem Settled.giveBack {capped : Bool} {b : Booking} (h : Settled capped ms s) (hm : m.returned? = some t)
    (hb : s.bookings[t]? = some b) (hpermit : b.permit = true)
    (hbook : s'.bookings = s.bookings.set t { b with permit := false }) : Settled capped (ms ++ [m]) s' := by
  have hreturns : ∀ u, returns (ms ++ [m]) u = returns ms u + if t = u then 1 else 0 := by
    intro u
    rw [returns_snoc, hm]
    simp
  refine ⟨fun u d hd => ?_, fun u hu => ?_⟩
  · rw [hbook] at hd
    rcases getElem?_set_eq_some hd with ⟨rfl, rfl⟩ | ⟨hne, hd⟩
    · have hone := h.once t b hb
      rw [hpermit] at hone
      rw [hreturns, if_pos rfl]
      exact hone
    · rw [hreturns, if_neg hne]
      exact h.once u d hd
  · rw [hbook, List.length_set] at hu
    have hne : t ≠ u := by
      rintro rfl
      exact Nat.not_lt.2 hu (length_of_getElem? hb)
    rw [hreturns, if_neg hne]
    exact h.none u hu

theorem settled_of_run (h : (forRules rules limits).run ms = some s) :
    Settled limits.maxConnections.isSome ms s := by
  refine run_induction (P := Settled limits.maxConnections.isSome) ?_ ?_ h
  · exact ⟨fun t b hb => absurd hb (by simp [forRules, bookings]), fun _ _ => rfl⟩
  intro ms m s s' hrun hsettled hs
  have hset : ∀ {t : TaskId} {c : Connection}, s.connections[t]? = some c → ∀ c' : Connection, c'.permit = c.permit →
      (s.setConnection t c').bookings.map Booking.permit = s.bookings.map Booking.permit := by
    intro t c hc c' hsame
    unfold bookings
    rw [List.map_map, List.map_map]
    exact map_set_of_eq hc hsame
  -- permits come with a connection and go by being given back; all other moves leave them where they are
  cases effect_of_step hs with
  | aside hm hsame =>
    refine hsettled.same ?_ (congrArg (List.map Booking.permit) (congrArg (List.map _) hsame.connections))
    cases m with
    | letGo => cases hm
    | _ => rfl
  | abort lost hst => exact hsettled.same rfl (congrArg _ (bookings_abortAll s))
  | spawn i a cl id ha hst =>
    exact hsettled.join (b := ⟨cl, id, i, .held, a.permit⟩) rfl (permit_of_counted hrun ha hst) List.map_append
  | dial t c rule hc hrule hidle hlive =>
    exact hsettled.same rfl (hset hc { c with forwarder := some .dialing } rfl)
  | work t cm c c' rule hm hc hrule hagree hwork =>
    exact hsettled.same rfl (hset hc _ (congrArg Booking.permit hwork.booking))
  | remove t c hc hdone hheld hfirst =>
    exact hsettled.same rfl (hset hc { c with guard := .removed } rfl)
  | countOut t c hc hremoved =>
    exact hsettled.same rfl (hset hc { c with guard := .released } rfl)
  | returnPermit t c a hc ha hdone hpermit hlast =>
    exact hsettled.giveBack rfl (getElem?_bookings_of hc) hpermit (List.map_set ..)
  | _ => exact hsettled.same rfl rfl

end Service

end SshTunnel

import SshTunnel.Proofs.Service.Capacity

/-!
Tasks on the roster.  A connection is put on it before its task runs, and the task is noted only after that, when
it may be over already.  Until then the acceptor is busy with this connection.
-/

namespace SshTunnel

/-- The acceptor has put an entry with this id in, and is about to note its task. -/
def Acceptor.registers (id : UInt64) (a : Acceptor) : Prop :=
  match a.stage with
  | .entered _ k | .counted _ k | .spawned k _ => k = id
  | _ => False

theorem Acceptor.registers_isOpen {id : UInt64} {a : Acceptor} (h : a.registers id) : a.isOpen = true := by
  unfold registers at h
  unfold isOpen
  split at h
  · rename_i hst
    rw [hst]
    rfl
  · rename_i hst
    rw [hst]
    rfl
  · rename_i hst
    rw [hst]
    rfl
  · exact h.elim

/-- An acceptor that waits for a client has no entry without a task. -/
theorem Acceptor.Steps.not_registers {stopping : Bool} {a a' : Acceptor} {m : Move} (h : a.Steps stopping m a')
    (id : UInt64) : ¬ a.registers id := by
  rcases h.stage with hs | hs | hs | hs
  all_goals simp [Acceptor.registers, hs]

theorem Acceptor.Steps.not_spawned {stopping : Bool} {a a' : Acceptor} {m : Move} (h : a.Steps stopping m a')
    (id : UInt64) (t : TaskId) : a'.stage ≠ .spawned id t := by
  cases h with
  | start hs =>
    unfold Acceptor.start
    split
    · exact nofun
    · split
      · exact nofun
      · exact nofun
  | _ => exact nofun

namespace Service

variable {s s' : Service} {m : Move} {ms : List Move} {rules : List Rule} {limits : Limits} {i : Nat}
  {a : Acceptor} {t : TaskId} {c : Connection} {e : Roster.Entry}

/-- The task, if it is that of a connection, has this id. -/
def HasId (s : Service) (t : TaskId) (id : UInt64) : Prop := ∃ b, s.bookings[t]? = some b ∧ b.id = id

/-- An entry without a task is one that its acceptor is about to complete, and a task that is noted, or about to be,
is the one of the connection with the id of the entry. -/
structure Noted (s : Service) : Prop where
  unknown : ∀ e ∈ s.roster.entries, e.task = none → ∃ a, s.acceptors[e.rule]? = some a ∧ a.registers e.id
  known : ∀ e ∈ s.roster.entries, ∀ t, e.task = some t → s.HasId t e.id
  spawned : ∀ (i : Nat) (a : Acceptor) id t, s.acceptors[i]? = some a → a.stage = .spawned id t → s.HasId t id

/-- No connection gets another id. -/
theorem hasId_of_effect {id : UInt64} (h : Effect s m s') (ht : s.HasId t id) : s'.HasId t id := by
  obtain ⟨b, hb, rfl⟩ := ht
  obtain ⟨c, hc, rfl⟩ := getElem?_bookings hb
  obtain ⟨c', hc', hlater⟩ := exists_later h hc
  exact ⟨c'.booking, getElem?_bookings_of hc', hlater.id⟩

/-- Entries that were there before, and acceptors of which one may have gone on, if it has no entry to complete or
keeps it. -/
theorem Noted.of_set {a' : Acceptor} (h : Noted s) (heff : Effect s m s') (ha : s.acceptors[i]? = some a)
    (hacc : s'.acceptors = s.acceptors.set i a') (hentries : ∀ e ∈ s'.roster.entries, e ∈ s.roster.entries)
    (hreg : ∀ id, a.registers id → a'.registers id)
    (hspawned : ∀ id t, a'.stage = .spawned id t → s'.HasId t id) : Noted s' := by
  refine ⟨?_, ?_, ?_⟩
  · intro e he htask
    obtain ⟨b, hb, hregs⟩ := h.unknown e (hentries e he) htask
    rw [hacc]
    -- an acceptor has to complete its entry still, whether it is the one that went on or another
    by_cases hi : i = e.rule
    · subst hi
      rw [ha] at hb
      obtain rfl := Option.some.inj hb
      exact ⟨a', getElem?_set_of_getElem? ha a', hreg _ hregs⟩
    · exact ⟨b, (List.getElem?_set_ne hi).trans hb, hregs⟩
  · exact fun e he t ht => hasId_of_effect heff (h.known e (hentries e he) t ht)
  · intro j b id t hb hst
    rw [hacc] at hb
    rcases getElem?_set_eq_some hb with ⟨rfl, rfl⟩ | ⟨-, hb⟩
    · exact hspawned id t hst
    · exact hasId_of_effect heff (h.spawned j b id t hb hst)

/-- Entries that were there before, with the same acceptors. -/
theorem Noted.of_eq (h : Noted s) (heff : Effect s m s') (hacc : s'.acceptors = s.acceptors)
    (hentries : ∀ e ∈ s'.roster.entries, e ∈ s.roster.entries) : Noted s' := by
  refine ⟨?_, ?_, ?_⟩
  · intro e he htask
    rw [hacc]
    exact h.unknown e (hentries e he) htask
  · exact fun e he t ht => hasId_of_effect heff (h.known e (hentries e he) t ht)
  · intro j b id t hb hst
    rw [hacc] at hb
    exact hasId_of_effect heff (h.spawned j b id t hb hst)

/-- A new entry, which its acceptor is to complete. -/
theorem Noted.enter {cl : Client} {id : UInt64} (h : Noted s) (ha : s.acceptors[i]? = some a)
    (hst : a.stage = .numbered cl id) (heff : Effect s m
      { s.setAcceptor i { a with stage := .entered cl id } with roster := s.roster.insert ⟨id, i, cl.peer, none⟩ }) :
    Noted { s.setAcceptor i { a with stage := .entered cl id } with
      roster := s.roster.insert ⟨id, i, cl.peer, none⟩ } := by
  have hnew : ({ a with stage := .entered cl id } : Acceptor).registers id := rfl
  have hidle : ∀ k, ¬ a.registers k := by
    intro k hk
    rw [Acceptor.registers, hst] at hk
    exact hk
  refine ⟨?_, ?_, ?_⟩
  · intro e he htask
    rcases List.mem_append.1 he with he | he
    · obtain ⟨b, hb, hregs⟩ := h.unknown e (List.mem_filter.1 he).1 htask
      -- no older entry waits for this acceptor, which had none to complete
      have hi : i ≠ e.rule := by
        rintro rfl
        rw [ha] at hb
        obtain rfl := Option.some.inj hb
        exact hidle _ hregs
      exact ⟨b, (List.getElem?_set_ne hi).trans hb, hregs⟩
    · rw [List.mem_singleton.1 he]
      exact ⟨_, getElem?_set_of_getElem? ha _, hnew⟩
  · intro e he t ht
    rcases List.mem_append.1 he with he | he
    · exact hasId_of_effect heff (h.known e (List.mem_filter.1 he).1 t ht)
    · rw [List.mem_singleton.1 he] at ht
      cases ht
  · intro j b k t hb hsp
    rcases getElem?_set_eq_some hb with ⟨rfl, rfl⟩ | ⟨-, hb⟩
    · cases hsp
    · exact hasId_of_effect heff (h.spawned j b k t hb hsp)

/-- The task of an entry is noted, and nothing is left to complete. -/
theorem Noted.note {id : UInt64} {task : TaskId} (h : Noted s) (ha : s.acceptors[i]? = some a)
    (hst : a.stage = .spawned id task) (heff : Effect s m
      { s.setAcceptor i { a with stage := .ready } with roster := s.roster.attach id task }) :
    Noted { s.setAcceptor i { a with stage := .ready } with roster := s.roster.attach id task } := by
  have hentry : ∀ e ∈ (s.roster.attach id task).entries, ∃ o ∈ s.roster.entries, e.id = o.id ∧ e.rule = o.rule ∧
      (o.id = id ∧ e.task = some task ∨ o.id ≠ id ∧ e.task = o.task) := by
    intro e he
    obtain ⟨o, ho, rfl⟩ := List.mem_map.1 he
    refine ⟨o, ho, ?_⟩
    split
    · rename_i hid
      exact ⟨rfl, rfl, Or.inl ⟨hid, rfl⟩⟩
    · rename_i hid
      exact ⟨rfl, rfl, Or.inr ⟨hid, rfl⟩⟩
  -- an entry after the move is one from before it, and only the one of this id has a new task
  refine ⟨?_, ?_, ?_⟩
  · intro e he htask
    obtain ⟨o, ho, hid, hrule, ⟨-, hsome⟩ | ⟨hne, hsame⟩⟩ := hentry e he
    · rw [hsome] at htask
      cases htask
    · rw [hsame] at htask
      obtain ⟨b, hb, hregs⟩ := h.unknown o ho htask
      -- an entry of another id that is still without a task waits for another acceptor
      have hi : i ≠ o.rule := by
        rintro rfl
        rw [ha] at hb
        obtain rfl := Option.some.inj hb
        rw [Acceptor.registers, hst] at hregs
        exact hne hregs.symm
      rw [hid, hrule]
      exact ⟨b, (List.getElem?_set_ne hi).trans hb, hregs⟩
  · intro e he t ht
    obtain ⟨o, ho, hid, -, ⟨heq, hsome⟩ | ⟨-, hsame⟩⟩ := hentry e he
    · rw [hsome] at ht
      rw [← Option.some.inj ht, hid, heq]
      exact hasId_of_effect heff (h.spawned i a id task ha hst)
    · rw [hid]
      exact hasId_of_effect heff (h.known o ho t (hsame ▸ ht))
  · intro j b k t hb hsp
    rcases getElem?_set_eq_some hb with ⟨rfl, rfl⟩ | ⟨-, hb⟩
    · cases hsp
    · exact hasId_of_effect heff (h.spawned j b k t hb hsp)

theorem Noted.step (h : Noted s) (hv : s.stage.isEarly = true → Vacant s) (heff : Effect s m s') : Noted s' := by
  have hsame : ∀ e ∈ s.roster.entries, e ∈ s.roster.entries := fun _ he => he
  have heff' := heff
  -- registering enters, spawns and notes in this order; no other move adds an entry or names a task
  cases heff with
  | aside hm hparts =>
    refine h.of_eq heff' hparts.acceptors ?_
    rw [hparts.roster]
    exact hsame
  | bound system ls hst hls =>
    have hvac := hv (by rw [hst]; rfl)
    have hnobody : s.roster.entries = [] := by
      rw [hvac.roster]
      rfl
    refine ⟨?_, ?_, ?_⟩
    · intro e he
      rw [show e ∈ s.roster.entries ↔ e ∈ [] by rw [hnobody]] at he
      cases he
    · intro e he
      rw [show e ∈ s.roster.entries ↔ e ∈ [] by rw [hnobody]] at he
      cases he
    · intro i a id t ha hsp
      obtain ⟨l, -, rfl⟩ := List.mem_map.1 (List.mem_of_getElem? ha)
      cases hsp
  | abort lost hst => exact h.of_eq heff' rfl hsame
  | connect i a peer ha hopen =>
    exact h.of_set heff' ha rfl hsame (fun _ hr => hr) fun id t hst => h.spawned i a id t ha hst
  | clientSends n b => exact h.of_eq heff' rfl hsame
  | channelSends u b => exact h.of_eq heff' rfl hsame
  | accept i a a' am ha hstep =>
    refine h.of_set heff' ha rfl hsame (fun id hr => absurd hr (hstep.not_registers id)) fun id t hst => ?_
    exact absurd hst (hstep.not_spawned id t)
  | number i a cl ha hst =>
    refine h.of_set heff' ha rfl hsame (fun id hr => ?_) nofun
    rw [Acceptor.registers, hst] at hr
    exact hr.elim
  | enter i a cl id ha hst => exact h.enter ha hst heff'
  | count i a cl id ha hst =>
    refine h.of_set heff' ha rfl hsame (fun k hr => ?_) nofun
    rw [Acceptor.registers, hst] at hr
    exact hr
  | spawn i a cl id ha hst =>
    refine h.of_set heff' ha rfl hsame (fun k hr => ?_) fun k t hsp => ?_
    · rw [Acceptor.registers, hst] at hr
      exact hr
    · obtain ⟨rfl, rfl⟩ := Acceptor.Stage.spawned.inj hsp
      -- the task that is going to be noted is the last one, which has just been made
      refine ⟨_, getElem?_bookings_of (List.getElem?_concat_length ..), rfl⟩
  | note i a id task ha hst => exact h.note ha hst heff'
  | dial u d rule hd hrule hidle hlive => exact h.of_eq heff' rfl hsame
  | work u cm d d' rule hm hd hrule hagree hwork => exact h.of_eq heff' rfl hsame
  | remove u d hd hdone hheld hfirst => exact h.of_eq heff' rfl fun e he => (List.mem_filter.1 he).1
  | countOut u d hd hremoved => exact h.of_eq heff' rfl hsame
  | returnPermit u d b hd hb hdone hpermit hlast =>
    exact h.of_set heff' hb rfl hsame (fun _ hr => hr) fun id t hst => by
      exact hasId_of_effect heff' (h.spawned d.rule b id t hb hst)

theorem noted_of_run (h : (forRules rules limits).run ms = some s) : Noted s := by
  refine run_induction (P := fun _ s => Noted s) ?_ ?_ h
  · exact ⟨nofun, nofun, fun i a id t ha => by cases ha⟩
  · exact fun _ _ _ _ hrun hnoted hs => hnoted.step (vacant_of_run hrun) (effect_of_step hs)

end Service

end SshTunnel

import Mathlib.Algebra.BigOperators.Group.Finset.Basic
import Mathlib.Data.List.Nodup
import Mathlib.Data.List.Perm.Subperm
import Mathlib.Tactic.Common
import SshTunnel.Roster.Sharing

/-!
The books of a roster that many use at once.  Every registration begun is in one of four places: its entry is
not in yet, its entry is in and not counted yet, someone holds its guard, or the guard is gone.  The entries
are those of the two places in the middle, and the counters of a rule follow the last two.
-/

namespace SshTunnel.Roster

/-! ### Entries and counters -/

/-- The registration that an entry comes from. -/
def Entry.pending (e : Entry) : Pending := ⟨e.id, e.rule⟩

theorem stats?_count (r : Roster) (rule t : Nat) (f : Stats → Stats) :
    (r.count rule f).stats? t = if rule = t then (r.stats? t).map f else r.stats? t := by
  unfold count stats?
  rw [List.getElem?_modify]
  by_cases h : rule = t
  · simp [h]
  · simp [h]

theorem activeFor_eq_countP (r : Roster) (t : Nat) :
    r.activeFor t = (r.entries.map Entry.pending).countP fun p => p.rule = t := by
  rw [List.countP_map]
  rfl

/-- Removing an entry whose id is no other's takes out this entry only. -/
theorem remove_entries {r : Roster} {e : Entry} (hn : (r.entries.map Entry.id).Nodup) (he : e ∈ r.entries) :
    (r.remove e.id).entries = r.entries.erase e := by
  rw [(List.Nodup.of_map _ hn).erase_eq_filter]
  refine List.filter_congr fun o ho => ?_
  by_cases h : o = e
  · simp [h]
  · have : o.id ≠ e.id := fun hid => h (List.inj_on_of_nodup_map hn ho he hid)
    simp [h, this]

theorem insert_entries {r : Roster} {e : Entry} (h : e.id ∉ r.entries.map Entry.id) :
    (r.insert e).entries = r.entries ++ [e] := by
  unfold insert
  rw [List.filter_eq_self.2]
  intro o ho
  have : o.id ≠ e.id := fun hid => h (hid ▸ List.mem_map_of_mem ho)
  simp [this]

theorem attach_pending (r : Roster) (id : UInt64) (task : TaskId) :
    (r.attach id task).entries.map Entry.pending = r.entries.map Entry.pending := by
  unfold attach
  rw [List.map_map]
  refine List.map_congr_left fun e _ => ?_
  dsimp only [Function.comp]
  split <;> rfl

theorem entry?_eq_some {r : Roster} {e : Entry} (hn : (r.entries.map Entry.id).Nodup) (he : e ∈ r.entries) :
    r.entry? e.id = some e := by
  unfold entry?
  obtain ⟨o, ho⟩ := Option.isSome_iff_exists.1
    (List.find?_isSome.2 ⟨e, he, by simp⟩ : (r.entries.find? fun o => o.id = e.id).isSome)
  have hid : o.id = e.id := by simpa using List.find?_some ho
  rw [ho, List.inj_on_of_nodup_map hn (List.mem_of_find?_eq_some ho) he hid]

/-- A counter is right when it shows, for every rule that has one, how many of `l` came in by this rule. -/
def Counts (r : Roster) (f : Stats → UInt64) (l : List Pending) : Prop :=
  ∀ t st, r.stats? t = some st → (f st).toNat = l.countP fun p => p.rule = t

theorem Counts.perm {r : Roster} {f : Stats → UInt64} {l l' : List Pending} (h : Counts r f l) (hl : l.Perm l') :
    Counts r f l' := fun t st hst => (h t st hst).trans (hl.countP_eq _)

/-- One more of them, counted where it came in. -/
theorem Counts.cons {r : Roster} {f : Stats → UInt64} {g : Stats → Stats} {l : List Pending} {p : Pending}
    (h : Counts r f l) (hg : ∀ st, r.stats? p.rule = some st → (f (g st)).toNat = (f st).toNat + 1) :
    Counts (r.count p.rule g) f (p :: l) := by
  intro t st hst
  rw [stats?_count] at hst
  split at hst
  · rename_i hrule
    subst hrule
    obtain ⟨old, hold, rfl⟩ := Option.map_eq_some_iff.1 hst
    rw [hg old hold, h _ old hold, List.countP_cons_of_pos (by simp)]
  · rename_i hrule
    rw [h t st hst, List.countP_cons_of_neg (by simpa using hrule)]

/-- One less of them. -/
theorem Counts.uncons {r : Roster} {f : Stats → UInt64} {g : Stats → Stats} {l : List Pending} {p : Pending}
    (h : Counts r f (p :: l)) (hg : ∀ st, f st ≠ 0 → (f (g st)).toNat + 1 = (f st).toNat) :
    Counts (r.count p.rule g) f l := by
  intro t st hst
  rw [stats?_count] at hst
  split at hst
  · rename_i hrule
    subst hrule
    obtain ⟨old, hold, rfl⟩ := Option.map_eq_some_iff.1 hst
    have hone := h _ old hold
    rw [List.countP_cons_of_pos (by simp)] at hone
    have := hg old (fun hz => by simp [hz] at hone)
    omega
  · rename_i hrule
    rw [h t st hst, List.countP_cons_of_neg (by simpa using hrule)]

/-- A change that leaves the counter alone. -/
theorem Counts.count {r : Roster} {f : Stats → UInt64} {g : Stats → Stats} {l : List Pending}
    (h : Counts r f l) (hg : ∀ st, f (g st) = f st) (rule : Nat) : Counts (r.count rule g) f l := by
  intro t st hst
  rw [stats?_count] at hst
  split at hst
  · obtain ⟨old, hold, rfl⟩ := Option.map_eq_some_iff.1 hst
    rw [hg, h t old hold]
  · exact h t st hst

namespace Shared

/-! ### Ids -/

/-- Ids are given out in their order, beginning with 1. -/
structure Numbered (s : Shared) : Prop where
  next : s.roster.nextId = UInt64.ofNat (s.begun.length + 1)
  ids : s.begun.map (fun p => p.id.toNat) = (List.range' 1 s.begun.length).reverse

theorem Numbered.nodup {s : Shared} (h : Numbered s) : (s.begun.map Pending.id).Nodup := by
  have : ((s.begun.map Pending.id).map UInt64.toNat).Nodup := by
    rw [List.map_map]
    exact h.ids ▸ List.nodup_reverse.2 List.nodup_range'
  exact this.of_map

theorem Numbered.takeId {s : Shared} (h : Numbered s) (rule : Nat) (hb : s.begun.length + 1 < 2 ^ 64) :
    (s.roster.takeId).2.nextId = UInt64.ofNat (s.begun.length + 1 + 1) ∧
      (⟨s.roster.takeId.1, rule⟩ :: s.begun : List Pending).map (fun p => p.id.toNat) =
        (List.range' 1 (s.begun.length + 1)).reverse := by
  have hid : (UInt64.ofNat (s.begun.length + 1)).toNat = s.begun.length + 1 :=
    UInt64.toNat_ofNat_of_lt' hb
  refine ⟨?_, ?_⟩
  · simp only [Roster.takeId, h.next]
    rw [UInt64.ofNat_add (s.begun.length + 1) 1]
    rfl
  · rw [List.range'_1_concat, List.reverse_append, List.map_cons, h.ids]
    simp only [Roster.takeId, h.next, hid]
    simp [Nat.add_comm]

/-! ### Where registrations are -/

/-- The state of the books: the registrations whose guard is `held`, and those whose guard is `gone`. -/
structure Booked (s : Shared) (held gone : List Pending) : Prop where
  begun : s.begun.Perm (s.numbered.map Prod.fst ++ (s.entered ++ (held ++ gone)))
  guards : s.guards.Perm (held.map Pending.id)
  dropped : s.dropped.Perm (gone.map Pending.id)
  removed : s.removed.Subperm gone
  entries : (s.roster.entries.map Entry.pending).Perm (s.entered ++ held)
  connections : Counts s.roster Stats.connections (held ++ gone)
  active : Counts s.roster Stats.active (held ++ s.removed)

variable {s s' : Shared} {held gone : List Pending} {id : UInt64}

theorem booked_forRules (n : Nat) : Booked (forRules n) [] [] := by
  have hst : ∀ t st, (forRules n).roster.stats? t = some st → st = {} := by
    intro t st h
    exact (List.mem_replicate.1 (List.mem_of_getElem? h)).2
  refine ⟨.refl _, .refl _, .refl _, .refl _, .refl _, ?_, ?_⟩
  · intro t st h
    rw [hst t st h]
    rfl
  · intro t st h
    rw [hst t st h]
    rfl

/-- The ids of all registrations, by where these are. -/
theorem Booked.ids (h : Booked s held gone) (hn : (s.begun.map Pending.id).Nodup) :
    ((s.numbered.map Prod.fst ++ (s.entered ++ (held ++ gone))).map Pending.id).Nodup :=
  (h.begun.map Pending.id).nodup_iff.1 hn

theorem Booked.entries_nodup (h : Booked s held gone) (hn : (s.begun.map Pending.id).Nodup) :
    (s.roster.entries.map Entry.id).Nodup := by
  have hids : (s.roster.entries.map Entry.id).Perm ((s.entered ++ held).map Pending.id) := by
    rw [show s.roster.entries.map Entry.id = (s.roster.entries.map Entry.pending).map Pending.id by
      rw [List.map_map]; rfl]
    exact h.entries.map Pending.id
  rw [hids.nodup_iff]
  have hall := h.ids hn
  rw [List.map_append, ← List.append_assoc s.entered, List.map_append] at hall
  exact hall.of_append_right.of_append_left

/-- An entry belongs to a registration in one of the two places in the middle. -/
theorem Booked.pending_mem {e : Entry} (h : Booked s held gone) (he : e ∈ s.roster.entries) :
    e.pending ∈ s.entered ++ held :=
  h.entries.mem_iff.1 (List.mem_map_of_mem he)

theorem Booked.begun_mem {e : Entry} (h : Booked s held gone) (he : e ∈ s.roster.entries) :
    e.pending ∈ s.begun := by
  refine h.begun.mem_iff.2 (List.mem_append_right _ ?_)
  rw [← List.append_assoc]
  exact List.mem_append_left _ (h.pending_mem he)

/-- Whoever holds a guard has an entry. -/
theorem Booked.exists_entry (h : Booked s held gone) (hid : id ∈ s.guards) :
    ∃ e ∈ s.roster.entries, e.id = id ∧ e.pending ∈ held := by
  obtain ⟨p, hp, rfl⟩ := List.mem_map.1 (h.guards.mem_iff.1 hid)
  obtain ⟨e, he, rfl⟩ := List.mem_map.1 (h.entries.mem_iff.2 (List.mem_append_right _ hp))
  exact ⟨e, he, rfl, hp⟩

/-! ### One step -/

theorem Booked.takeId {rule : Nat} {peer : Endpoint} (h : Booked s held gone)
    (hs : s.step (.takeId rule peer) = some s') : Booked s' held gone := by
  obtain rfl := Option.some.inj hs
  exact ⟨h.begun.cons _, h.guards, h.dropped, h.removed, h.entries, h.connections, h.active⟩

theorem step_enter (hs : s.step (.enter id) = some s') :
    ∃ p peer, (p, peer) ∈ s.numbered ∧ p.id = id ∧
      s' = { s with roster := s.roster.insert ⟨p.id, p.rule, peer, none⟩,
                    numbered := s.numbered.erase (p, peer), entered := p :: s.entered } := by
  obtain ⟨⟨p, peer⟩, hf, hp⟩ := Option.bind_eq_some_iff.1 hs
  have hid : p.id = id := by simpa using List.find?_some hf
  subst hid
  exact ⟨p, peer, List.mem_of_find?_eq_some hf, rfl, (Option.some.inj hp).symm⟩

theorem Booked.enter (h : Booked s held gone) (hn : (s.begun.map Pending.id).Nodup)
    (hs : s.step (.enter id) = some s') : Booked s' held gone := by
  obtain ⟨p, peer, hp, rfl, rfl⟩ := step_enter hs
  have hnew : p.id ∉ s.roster.entries.map Entry.id := by
    intro hmem
    obtain ⟨e, he, hid⟩ := List.mem_map.1 hmem
    have hall := h.ids hn
    rw [List.map_append] at hall
    refine List.disjoint_of_nodup_append hall (List.mem_map_of_mem (List.mem_map_of_mem hp)) ?_
    rw [show (Prod.fst (p, peer)).id = e.pending.id from hid.symm, ← List.append_assoc]
    exact List.mem_map_of_mem (List.mem_append_left _ (h.pending_mem he))
  refine ⟨?_, h.guards, h.dropped, h.removed, ?_, h.connections, h.active⟩
  · have := (List.perm_cons_erase hp).map Prod.fst
    refine (h.begun.trans (this.append_right _)).trans ?_
    exact List.perm_middle.symm
  · rw [insert_entries hnew, List.map_append]
    exact (List.perm_append_singleton p _).trans (h.entries.cons p)

theorem step_countIn (hs : s.step (.countIn id) = some s') :
    ∃ p ∈ s.entered, p.id = id ∧
      s' = { s with roster := s.roster.count p.rule Stats.connected, entered := s.entered.erase p,
                    guards := p.id :: s.guards } := by
  obtain ⟨p, hf, hp⟩ := Option.bind_eq_some_iff.1 hs
  have hid : p.id = id := by simpa using List.find?_some hf
  subst hid
  exact ⟨p, List.mem_of_find?_eq_some hf, rfl, (Option.some.inj hp).symm⟩

/-- Neither counter of a rule reaches its end while an entry waits to be counted. -/
theorem Booked.room {p : Pending} {st : Stats} {t : Nat} (h : Booked s held gone) (hp : p ∈ s.entered)
    (hb : s.begun.length < 2 ^ 64) (hst : s.roster.stats? t = some st) :
    st.connections.toNat + 1 < 2 ^ 64 ∧ st.active.toNat + 1 < 2 ^ 64 := by
  have hlen := h.begun.length_eq
  have hpos : 0 < s.entered.length := List.length_pos_of_mem hp
  have hremoved := h.removed.length_le
  have hconn := h.connections t st hst ▸ List.countP_le_length (l := held ++ gone)
  have hact := h.active t st hst ▸ List.countP_le_length (l := held ++ s.removed)
  simp only [List.length_append, List.length_map] at hlen hconn hact
  omega

theorem Booked.countIn (h : Booked s held gone) (hb : s.begun.length < 2 ^ 64)
    (hs : s.step (.countIn id) = some s') : ∃ p, Booked s' (p :: held) gone := by
  obtain ⟨p, hp, rfl, rfl⟩ := step_countIn hs
  have hmove : ∀ l : List Pending, (s.entered ++ (held ++ l)).Perm (s.entered.erase p ++ (p :: held ++ l)) := by
    intro l
    refine ((List.perm_cons_erase hp).append_right _).trans ?_
    exact List.perm_middle.symm
  refine ⟨p, ?_, h.guards.cons _, h.dropped, h.removed, ?_, ?_, ?_⟩
  · exact h.begun.trans ((hmove gone).append_left _)
  · have := hmove []
    rw [List.append_nil, List.append_nil] at this
    exact h.entries.trans this
  · refine h.connections.cons fun st hst => ?_
    exact (UInt64.toNat_add ..).trans (Nat.mod_eq_of_lt (h.room hp hb hst).1)
  · refine h.active.cons fun st hst => ?_
    exact (UInt64.toNat_add ..).trans (Nat.mod_eq_of_lt (h.room hp hb hst).2)

theorem step_drop (hs : s.step (.drop id) = some s') :
    id ∈ s.guards ∧
      s' = { s with roster := s.roster.remove id, guards := s.guards.erase id, dropped := id :: s.dropped,
                    removed := ((s.roster.entry? id).map fun e => ⟨id, e.rule⟩).toList ++ s.removed } := by
  simp only [step] at hs
  split at hs
  · rename_i hid
    exact ⟨hid, (Option.some.inj hs).symm⟩
  · cases hs

/-- Dropping a guard takes out the entry of its registration, and no other. -/
theorem Booked.drop (h : Booked s held gone) (hn : (s.begun.map Pending.id).Nodup)
    (hs : s.step (.drop id) = some s') :
    ∃ e ∈ s.roster.entries, e.id = id ∧ s'.roster.entries = s.roster.entries.erase e ∧
      Booked s' (held.erase e.pending) (e.pending :: gone) := by
  obtain ⟨hid, rfl⟩ := step_drop hs
  obtain ⟨e, he, rfl, hheld⟩ := h.exists_entry hid
  have hnodup := h.entries_nodup hn
  have hout : ((s.roster.entry? e.id).map fun e' => (⟨e.id, e'.rule⟩ : Pending)).toList = [e.pending] := by
    rw [entry?_eq_some hnodup he]
    rfl
  have hremove := remove_entries hnodup he
  have hsplit : held.Perm (e.pending :: held.erase e.pending) := List.perm_cons_erase hheld
  have hmove : ∀ l : List Pending, (held ++ l).Perm (held.erase e.pending ++ e.pending :: l) := by
    intro l
    exact (hsplit.append_right l).trans List.perm_middle.symm
  refine ⟨e, he, rfl, hremove, ?_, ?_, ?_, ?_, ?_, ?_, ?_⟩
  · exact h.begun.trans (((hmove gone).append_left _).append_left _)
  · refine List.Perm.cons_inv (a := e.id) ?_
    exact (List.perm_cons_erase hid).symm.trans (h.guards.trans (hsplit.map Pending.id))
  · exact h.dropped.cons _
  · rw [hout]
    exact (List.subperm_cons _).2 h.removed
  · rw [hremove]
    refine List.Perm.cons_inv (a := e.pending) ?_
    refine ((List.perm_cons_erase he).map Entry.pending).symm.trans (h.entries.trans ?_)
    exact (hsplit.append_left _).trans List.perm_middle
  · exact h.connections.perm (hmove gone)
  · rw [hout]
    exact h.active.perm (hmove s.removed)

theorem step_countOut (hs : s.step (.countOut id) = some s') :
    ∃ p ∈ s.removed, p.id = id ∧
      s' = { s with roster := s.roster.count p.rule Stats.disconnected, removed := s.removed.erase p } := by
  obtain ⟨p, hf, hp⟩ := Option.bind_eq_some_iff.1 hs
  have hid : p.id = id := by simpa using List.find?_some hf
  subst hid
  exact ⟨p, List.mem_of_find?_eq_some hf, rfl, (Option.some.inj hp).symm⟩

theorem disconnected_active {st : Stats} (h : st.active ≠ 0) :
    st.disconnected.active.toNat + 1 = st.active.toNat := by
  have hpos : 0 < st.active.toNat := by
    rw [Nat.pos_iff_ne_zero]
    exact fun hz => h (UInt64.toNat_inj.1 hz)
  have hle : (1 : UInt64) ≤ st.active := UInt64.le_iff_toNat_le.2 hpos
  simp only [Stats.disconnected, if_neg h]
  rw [UInt64.toNat_sub_of_le _ _ hle]
  exact Nat.sub_add_cancel hpos

theorem Booked.countOut (h : Booked s held gone) (hs : s.step (.countOut id) = some s') : Booked s' held gone := by
  obtain ⟨p, hp, rfl, rfl⟩ := step_countOut hs
  refine ⟨h.begun, h.guards, h.dropped, ?_, h.entries, ?_, ?_⟩
  · exact (List.erase_subperm p s.removed).trans h.removed
  · exact h.connections.count (g := Stats.disconnected) (fun _ => rfl) p.rule
  · refine Counts.uncons (h.active.perm ?_) fun st => disconnected_active
    exact ((List.perm_cons_erase hp).append_left _).trans List.perm_middle

/-- What waits to be counted out is still counted. -/
theorem Booked.active_ne_zero {p : Pending} {st : Stats} (h : Booked s held gone) (hp : p ∈ s.removed)
    (hst : s.roster.stats? p.rule = some st) : st.active ≠ 0 := by
  intro hz
  have hzero := h.active p.rule st hst
  rw [hz, eq_comm] at hzero
  have := List.countP_eq_zero.1 hzero p (List.mem_append_right _ hp)
  simp at this

theorem Booked.attach {task : TaskId} (h : Booked s held gone) (hs : s.step (.attach id task) = some s') :
    Booked s' held gone := by
  obtain rfl := Option.some.inj hs
  refine ⟨h.begun, h.guards, h.dropped, h.removed, ?_, h.connections, h.active⟩
  rw [attach_pending]
  exact h.entries

end Shared

end SshTunnel.Roster

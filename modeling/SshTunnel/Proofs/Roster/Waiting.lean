import Mathlib.Algebra.Order.Floor.Div
import SshTunnel.Roster.Idle
import SshTunnel.Roster.Sharing

/-!
Waiting for the last one to leave.  Others go on using the roster between two looks, so a wait only knows what
its looks have seen.  It ends since every pause takes its time, and it looks before it asks for the time, so
that whoever leaves in time for the last look has left in time.
-/

namespace SshTunnel.Roster

/-! ### The clock -/

theorem nanosOf_pause_pos : 0 < nanosOf pause := by decide

/-- So many pauses have taken at least so long. -/
theorem Clock.mul_le_elapsed (c : Clock) (n : Nat) : nanosOf pause * n ≤ c.elapsed n := by
  induction n with
  | zero => exact Nat.zero_le _
  | succ n ih => exact Nat.le_trans (Nat.add_le_add_right ih _) (c.advances n)

/-- A pause that begins before the deadline is one of those that fit into it, the last one rounded up. -/
theorem Clock.lt_ceilDiv (c : Clock) {deadline n : Nat} (h : c.elapsed n < deadline) :
    n < deadline ⌈/⌉ nanosOf pause := by
  by_contra hle
  have hmul : deadline ≤ nanosOf pause • n :=
    (ceilDiv_le_iff_le_smul nanosOf_pause_pos).1 (Nat.le_of_not_lt hle)
  have := c.mul_le_elapsed n
  rw [smul_eq_mul] at hmul
  omega

namespace Watch

variable (w : Watch) (deadline : Nat)

/-! ### The looks of a wait -/

/-- What the looks from number `n` to the last one found. -/
structure Looked (n : Nat) (found : Bool) (last : Nat) : Prop where
  begins : n ≤ last
  /-- Before each pause somebody was there, and there was time left. -/
  goesOn : ∀ k, n ≤ k → k < last → (w.seen k).entries ≠ [] ∧ w.elapsed k < deadline
  ends : found = true ∧ (w.seen last).entries = [] ∨
    found = false ∧ (w.seen last).entries ≠ [] ∧ deadline ≤ w.elapsed last

variable {w deadline}

/-- One more look before the others. -/
theorem Looked.pred {n last : Nat} {found : Bool} (h : Looked w deadline (n + 1) found last)
    (hseen : (w.seen n).entries ≠ []) (htime : w.elapsed n < deadline) : Looked w deadline n found last where
  begins := Nat.le_of_succ_le h.begins
  goesOn k hn hk := by
    obtain rfl | hlt := Nat.eq_or_lt_of_le hn
    · exact ⟨hseen, htime⟩
    · exact h.goesOn k hlt hk
  ends := h.ends

theorem looked_waitFrom (w : Watch) (deadline n : Nat) :
    Looked w deadline n (w.waitFrom deadline n).1 (w.waitFrom deadline n).2 := by
  fun_induction w.waitFrom deadline n with
  | case1 n hempty =>
    exact ⟨Nat.le_refl n, fun k hn hk => by omega, Or.inl ⟨rfl, List.isEmpty_iff.1 hempty⟩⟩
  | case2 n hsome hlate =>
    exact ⟨Nat.le_refl n, fun k hn hk => by omega, Or.inr ⟨rfl, mt List.isEmpty_iff.2 hsome, hlate⟩⟩
  | case3 n hsome hearly ih =>
    exact ih.pred (mt List.isEmpty_iff.2 hsome) (Nat.lt_of_not_le hearly)

/-! ### The answer -/

variable (w deadline)

/-- A wait that answers `found` at its look number `last`, after as many pauses, and is right to do so. -/
structure Exact (found : Bool) (last : Nat) : Prop where
  few : last ≤ deadline ⌈/⌉ nanosOf pause
  /-- Nobody was there at one of the looks. -/
  found_iff : found = true ↔ ∃ n ≤ last, (w.seen n).entries = []
  /-- The last look decides, however late it is. -/
  found_iff_last : found = true ↔ (w.seen last).entries = []
  missed : found = false → deadline ≤ w.elapsed last ∧ ∀ n ≤ last, (w.seen n).entries ≠ []
  /-- A pause is only made while there is time left. -/
  pauses : ∀ n < last, w.elapsed n < deadline

variable {w deadline}

theorem Looked.exact {found : Bool} {last : Nat} (h : Looked w deadline 0 found last) :
    Exact w deadline found last := by
  have hbefore (n : Nat) (hn : n < last) : (w.seen n).entries ≠ [] := (h.goesOn n n.zero_le hn).1
  have hlast : found = true ↔ (w.seen last).entries = [] := by
    obtain ⟨hfound, hempty⟩ | ⟨hfound, hsome, -⟩ := h.ends
    · exact iff_of_true hfound hempty
    · exact iff_of_false (by simp [hfound]) hsome
  have hone : (∃ n ≤ last, (w.seen n).entries = []) ↔ (w.seen last).entries = [] := by
    refine ⟨fun ⟨n, hn, hempty⟩ => ?_, fun hempty => ⟨last, Nat.le_refl last, hempty⟩⟩
    obtain rfl | hlt := Nat.eq_or_lt_of_le hn
    · exact hempty
    · exact absurd hempty (hbefore n hlt)
  refine ⟨?_, hlast.trans hone.symm, hlast, fun hfound => ?_, fun n hn => (h.goesOn n n.zero_le hn).2⟩
  · cases last with
    | zero => exact Nat.zero_le _
    | succ n => exact w.lt_ceilDiv (h.goesOn n n.zero_le n.lt_succ_self).2
  · obtain ⟨htrue, -⟩ | ⟨-, hsome, hlate⟩ := h.ends
    · simp [hfound] at htrue
    · exact ⟨hlate, fun n hn hempty => hsome (hone.1 ⟨n, hn, hempty⟩)⟩

end Watch

/-- A roster that nobody changes is found as it is, whatever the deadline. -/
theorem waitIdle_iff (deadline : Nat) (r : Roster) : r.waitIdle deadline = true ↔ r.entries = [] := by
  have hexact := (Watch.looked_waitFrom (Watch.still r) (nanosOf deadline) 0).exact
  have hseen (n : Nat) : (Watch.still r).seen n = r := rfl
  -- said of the function, since comparing the two values would run the loop
  have hwait : waitIdle = fun deadline r => ((Watch.still r).waitFrom (nanosOf deadline) 0).1 := rfl
  rw [hwait, hexact.found_iff_last, hseen]

/-! ### A roster in use -/

namespace Shared

/-- A shared roster over the looks of somebody who waits.  Between two of them any steps of other calls are
made: connections are registered and released, also halfway. -/
structure Use where
  state : Nat → Shared
  moves : Nat → List Move
  runs : ∀ n, (state n).run (moves n) = some (state (n + 1))

def Use.watch (u : Use) (c : Clock) : Watch where
  toClock := c
  seen n := (u.state n).roster

/-- Waiting for a roster that is in use comes to an end, and its answer is exact. -/
theorem Use.wait_exact (u : Use) (c : Clock) (deadline : Nat) :
    (u.watch c).Exact deadline ((u.watch c).wait deadline).1 ((u.watch c).wait deadline).2 :=
  (Watch.looked_waitFrom (u.watch c) deadline 0).exact

/-- One client takes the place of another between the first two looks, and leaves before the third. -/
def handoverMoves : Nat → List Move
  | 0 => [.takeId 0 ⟨"127.0.0.1", 40001⟩, .enter 2, .drop 1, .countIn 2, .countOut 1]
  | 1 => [.drop 2, .countOut 2]
  | _ => []

/-- The first look finds the first client. -/
def handoverState : Nat → Shared
  | 0 => ((forRules 1).run [.takeId 0 ⟨"127.0.0.1", 40000⟩, .enter 1, .countIn 1]).getD (forRules 1)
  | n + 1 => ((handoverState n).run (handoverMoves n)).getD (forRules 1)

def handover : Use where
  state := handoverState
  moves := handoverMoves
  runs
    | 0 => rfl
    | 1 => rfl
    | _ + 2 => rfl

/-- There is always somebody until the deadline has passed, and nobody at the look behind it: that is soon enough. -/
theorem wait_exact_handover :
    (handover.watch (Watch.still (forRules 1).roster).toClock).wait (nanosOf 60) = (true, 2) := by
  have hexact := handover.wait_exact (Watch.still (forRules 1).roster).toClock (nanosOf 60)
  generalize (handover.watch (Watch.still (forRules 1).roster).toClock).wait (nanosOf 60) = answer at hexact ⊢
  obtain ⟨found, last⟩ := answer
  have hfew : last ≤ 2 := hexact.few
  have hsome : ∀ n < 2, ((handover.watch (Watch.still (forRules 1).roster).toClock).seen n).entries ≠ [] := by decide
  -- the two looks before the deadline end nothing, so that it is the third one that does
  have hlast : last = 2 := by
    by_contra hne
    have hlt : last < 2 := by omega
    cases found with
    | true => exact hsome last hlt (hexact.found_iff_last.1 rfl)
    | false =>
      have hlate : nanosOf 60 ≤ last * nanosOf pause := (hexact.missed rfl).1
      have hearly : last * nanosOf pause ≤ 1 * nanosOf pause := Nat.mul_le_mul_right _ (by omega)
      exact absurd (hlate.trans hearly) (by decide)
  subst hlast
  have hfound : found = true := hexact.found_iff_last.2 rfl
  rw [hfound]

end Shared

end SshTunnel.Roster

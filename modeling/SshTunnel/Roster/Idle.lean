import SshTunnel.Roster.Basic

/-!
Waiting until nobody is on the roster: a look every so often, for a limited time.
-/

namespace SshTunnel

namespace Roster

/-- The pause between two looks in milliseconds. -/
def pause : Nat := 50

def nanosOf (ms : Nat) : Nat := ms * 1000000

/-- The nanoseconds that have gone by at each look.  A pause takes at least its time. -/
structure Clock where
  elapsed : Nat → Nat
  advances : ∀ n, elapsed n + nanosOf pause ≤ elapsed (n + 1)

/-- What is seen while waiting: the roster as each look finds it, and the clock. -/
structure Watch extends Clock where
  seen : Nat → Roster

namespace Watch

/-- Looks from number `n` on until the roster is empty or the deadline has passed.  Tells which, and the
number of the last look, which is the number of pauses made. -/
def waitFrom (w : Watch) (deadline n : Nat) : Bool × Nat :=
  if (w.seen n).entries.isEmpty then (true, n)
  else if deadline ≤ w.elapsed n then (false, n)
  else w.waitFrom deadline (n + 1)
termination_by deadline - w.elapsed n
decreasing_by
  have := w.advances n
  simp only [nanosOf, pause] at this
  omega

def wait (w : Watch) (deadline : Nat) : Bool × Nat := w.waitFrom deadline 0

/-- The watch over a roster that nobody changes. -/
def still (r : Roster) : Watch where
  elapsed n := n * nanosOf pause
  advances n := by grind
  seen _ := r

end Watch

/-- Whether a roster that nobody changes is seen empty within so many milliseconds. -/
def waitIdle (deadline : Nat) (r : Roster) : Bool := ((Watch.still r).wait (nanosOf deadline)).1

end Roster

end SshTunnel

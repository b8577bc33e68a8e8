import SshTunnel.Proofs.Relay.Flow

/-!
A relay may come to its end at any time, whatever has been sent so far: a source or a sink can always fail, and then
there is only so much left to do.
-/

namespace SshTunnel

namespace Flow

/-- The moves that a source or a sink may make without regard to what was sent. -/
def Move.isFailure : Move → Bool
  | readFails _ | writeFails _ | shut => true
  | _ => false

/-- How many such moves are left at most. -/
def Stage.toGo : Stage → Nat
  | reading | writing .. => 2
  | closing _ => 1
  | ended _ => 0

theorem exists_failure {f : Flow} (h : f.isOver = false) :
    ∃ m f', m.isFailure = true ∧ f.step m = some f' ∧ f'.stage.toGo < f.stage.toGo := by
  cases hst : f.stage with
  | reading => exact ⟨.readFails "", f.close (some ""), rfl, by simp [step, hst], Nat.lt_succ_self 1⟩
  | writing rest size => exact ⟨.writeFails "", f.close (some ""), rfl, by simp [step, hst], Nat.lt_succ_self 1⟩
  | closing error =>
    exact ⟨.shut, { f with stage := .ended error }, rfl, by simp [step, hst], Nat.lt_succ_self 0⟩
  | ended error => simp [isOver, outcome?, hst] at h

end Flow

namespace Bridge

/-- How many moves are left at most until both directions have been seen to end. -/
def toGo (b : Bridge) : Nat := b.up.stage.toGo + b.down.stage.toGo + if b.first = none then 1 else 0

/-- A move of a pair that nobody else has a say in. -/
def Move.isFree : Move → Bool
  | flow _ m => m.isFailure
  | notice _ => true
  | graceOver => false

theorem exists_failure {b : Bridge} {w : Way} (h : (b.flow w).isOver = false) (force : Bool) :
    ∃ m b', m.isFree = true ∧ b.step force m = some b' ∧ b'.toGo < b.toGo := by
  obtain ⟨m, f, hm, hs, hless⟩ := Flow.exists_failure h
  have hmay : b.mayMove force m = true := by
    cases m with
    | cut => cases hm
    | _ => rfl
  refine ⟨.flow w m, b.setFlow w f, hm, by simp [step, hmay, hs], ?_⟩
  cases w with
  | up => exact Nat.add_lt_add_right (Nat.add_lt_add_right hless _) _
  | down => exact Nat.add_lt_add_right (Nat.add_lt_add_left hless _) _

/-- Either the pair can go on without anybody, or both directions are through. -/
theorem exists_free (b : Bridge) (force : Bool) :
    (∃ m b', m.isFree = true ∧ b.step force m = some b' ∧ b'.toGo < b.toGo) ∨ ∃ e, b.outcome? = some e := by
  cases hup : (b.flow .up).isOver with
  | false => exact Or.inl (exists_failure hup force)
  | true =>
    cases hdown : (b.flow .down).isOver with
    | false => exact Or.inl (exists_failure hdown force)
    | true =>
      cases hfirst : b.first with
      | none =>
        refine Or.inl ⟨.notice .up, { b with first := some .up }, rfl, by simp [step, hfirst, hup], ?_⟩
        simp [toGo, hfirst]
      | some w =>
        obtain ⟨e, he⟩ := Option.isSome_iff_exists.1 hup
        obtain ⟨e', he'⟩ := Option.isSome_iff_exists.1 hdown
        right
        cases w with
        | up => exact ⟨e.or e', by simp [outcome?, hfirst, Way.other, he, he']⟩
        | down => exact ⟨e'.or e, by simp [outcome?, hfirst, Way.other, he, he']⟩

end Bridge

end SshTunnel

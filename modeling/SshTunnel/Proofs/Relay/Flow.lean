import Mathlib.Data.List.Infix
import Mathlib.Tactic.Common
import SshTunnel.Relay.Forwarder

/-!
One direction of a relay passes on what it reads, in its order and from the beginning.  What it has delivered is a
prefix of what it has read, and that a prefix of its source.  A step of a pair, or of a forwarder, is one of one
direction at most.
-/

namespace SshTunnel

namespace Flow

variable {source source' : Bytes} {f f' : Flow} {m : Move}

/-- What a step does: it reads a chunk, delivers some of one, stops relaying or ends. -/
inductive Steps (f : Flow) : Move → Flow → Prop
  | read (chunk : Bytes) (hst : f.stage = .reading) (hsome : chunk ≠ []) (hsize : chunk.length ≤ chunkSize) :
    Steps f (.read chunk) { f with taken := f.taken ++ chunk, stage := .writing chunk chunk.length }
  | deliver (n : Nat) (rest : Bytes) (size : Nat) (hst : f.stage = .writing rest size) (hpos : n ≠ 0)
      (hle : n ≤ rest.length) :
    Steps f (.accept n) (f.deliver n rest size)
  | close (m : Move) (error : Option String) (hread : ∀ chunk, m ≠ .read chunk)
      (hst : f.stage = .reading ∨ ∃ rest size, f.stage = .writing rest size) :
    Steps f m (f.close error)
  | shut (error : Option String) (hst : f.stage = .closing error) : Steps f .shut { f with stage := .ended error }

theorem steps_of_step (h : f.step m = some f') : f.Steps m f' := by
  unfold Flow.step at h
  split at h
  · -- while it reads: a chunk, the end, an error, and the order to stop
    rename_i chunk hst
    split at h
    · cases h
    · rename_i hchunk
      rw [not_or] at hchunk
      obtain rfl := Option.some.inj h
      exact .read chunk hst hchunk.1 (Nat.le_of_not_lt hchunk.2)
  · rename_i hst
    obtain rfl := Option.some.inj h
    exact .close _ none nofun (Or.inl hst)
  · rename_i e hst
    obtain rfl := Option.some.inj h
    exact .close _ (some e) nofun (Or.inl hst)
  · rename_i hst
    obtain rfl := Option.some.inj h
    exact .close _ none nofun (Or.inl hst)
  · -- while it writes: bytes are taken, an error, and the order to stop; to take none is an error as well
    rename_i rest size n hst
    split at h
    · obtain rfl := Option.some.inj h
      exact .close _ _ nofun (Or.inr ⟨rest, size, hst⟩)
    · rename_i hpos
      split at h
      · rename_i hle
        obtain rfl := Option.some.inj h
        exact .deliver n rest size hst hpos hle
      · cases h
  · rename_i rest size e hst
    obtain rfl := Option.some.inj h
    exact .close _ (some e) nofun (Or.inr ⟨rest, size, hst⟩)
  · rename_i rest size hst
    obtain rfl := Option.some.inj h
    exact .close _ none nofun (Or.inr ⟨rest, size, hst⟩)
  · rename_i error hst
    obtain rfl := Option.some.inj h
    exact .shut error hst
  · cases h

/-- What was delivered is a prefix of what was read, and only a chunk that is being written, or was given up, is
missing; what was read is a prefix of the source. -/
structure Faithful (source : Bytes) (f : Flow) : Prop where
  taken : f.taken <+: source
  delivered : f.delivered <+: f.taken
  reading : f.stage = .reading → f.delivered = f.taken
  writing : ∀ rest size, f.stage = .writing rest size → f.delivered ++ rest = f.taken

theorem faithful_fresh (source : Bytes) : Faithful source {} :=
  ⟨⟨source, rfl⟩, List.prefix_rfl, fun _ => rfl, nofun⟩

theorem Faithful.mono (h : Faithful source f) (hs : source <+: source') : Faithful source' f :=
  ⟨h.taken.trans hs, h.delivered, h.reading, h.writing⟩

theorem Faithful.within (h : Faithful source f) : f.delivered <+: source := h.delivered.trans h.taken

/-- What ends a direction delivers nothing. -/
theorem Faithful.close (h : Faithful source f) (error : Option String) : Faithful source (f.close error) :=
  ⟨h.taken, h.delivered, nofun, nofun⟩

theorem Faithful.read {chunk : Bytes} (h : Faithful source f) (hs : f.stage = .reading)
    (hchunk : chunk <+: source.drop f.taken.length) :
    Faithful source { f with taken := f.taken ++ chunk, stage := .writing chunk chunk.length } := by
  have heq := h.reading hs
  refine ⟨?_, ?_, nofun, ?_⟩
  · obtain ⟨rest, hrest⟩ := h.taken
    rw [← hrest, List.drop_left] at hchunk
    rw [← hrest]
    exact (List.prefix_append_right_inj _).2 hchunk
  · dsimp only
    rw [heq]
    exact List.prefix_append ..
  · intro rest size hw
    obtain ⟨rfl, -⟩ := Flow.Stage.writing.inj hw
    exact congrArg (· ++ chunk) heq

theorem Faithful.deliver {rest : Bytes} {size n : Nat} (h : Faithful source f)
    (hs : f.stage = .writing rest size) : Faithful source (f.deliver n rest size) := by
  have hall := h.writing rest size hs
  have hsplit : f.delivered ++ rest.take n ++ rest.drop n = f.taken := by
    rw [List.append_assoc, List.take_append_drop, hall]
  refine ⟨h.taken, ⟨rest.drop n, hsplit⟩, ?_, ?_⟩
  · intro hr
    have hfull : n = rest.length := by
      by_contra hne
      simp [Flow.deliver, hne] at hr
    have hnone : rest.drop n = [] := by rw [hfull, List.drop_length]
    rw [hnone, List.append_nil] at hsplit
    exact hsplit
  · intro rest' size' hw
    by_cases hfull : n = rest.length
    · simp [Flow.deliver, hfull] at hw
    · simp only [Flow.deliver, hfull, if_false] at hw
      obtain ⟨rfl, -⟩ := Flow.Stage.writing.inj hw
      exact hsplit

/-- Every step keeps to the source, if what it reads is what comes next there. -/
theorem Faithful.step (h : Faithful source f)
    (hagree : ∀ chunk, m = .read chunk → chunk <+: source.drop f.taken.length) (hs : f.step m = some f') :
    Faithful source f' := by
  cases steps_of_step hs with
  | read chunk hst hsome hsize => exact h.read hst (hagree chunk rfl)
  | deliver n rest size hst hpos hle => exact h.deliver hst
  | close m error hread hst => exact h.close error
  | shut error hst => exact ⟨h.taken, h.delivered, nofun, nofun⟩

/-- Nothing that was counted is taken back. -/
theorem counted_le_of_step (hs : f.step m = some f') : f.counted ≤ f'.counted := by
  cases steps_of_step hs with
  | deliver n rest size hst hpos hle =>
    dsimp only [Flow.deliver]
    split
    · exact Nat.le_add_right ..
    · exact Nat.le_refl _
  | _ => exact Nat.le_refl _

end Flow

/-! ### Directions of a pair -/

theorem Way.eq_other_of_ne {v w : Way} (h : w ≠ v) : w = v.other := by
  cases w
  · cases v
    · exact absurd rfl h
    · rfl
  · cases v
    · rfl
    · exact absurd rfl h

namespace Bridge

variable {b b' : Bridge} {force : Bool} {m : Move}

@[simp] theorem flow_setFlow_self (b : Bridge) (w : Way) (f : Flow) : (b.setFlow w f).flow w = f := by
  cases w
  · rfl
  · rfl

theorem flow_setFlow_of_ne {w w' : Way} (h : w ≠ w') (b : Bridge) (f : Flow) : (b.setFlow w f).flow w' = b.flow w' := by
  cases w
  · cases w'
    · exact absurd rfl h
    · rfl
  · cases w'
    · rfl
    · exact absurd rfl h

@[simp] theorem flow_close (b : Bridge) (w : Way) : b.close.flow w = b.flow w := by
  cases w
  · rfl
  · rfl

/-- The moves of a pair, and what they come to. -/
inductive Steps (force : Bool) (b : Bridge) : Move → Bridge → Prop
  | flow (w : Way) (fm : Flow.Move) (f : Flow) (hmay : b.mayMove force fm = true) (h : (b.flow w).step fm = some f) :
    Steps force b (.flow w fm) (b.setFlow w f)
  | notice (w : Way) (hfirst : b.first = none) (hover : (b.flow w).isOver = true) :
    Steps force b (.notice w) { b with first := some w }
  | graceOver (w : Way) (hfirst : b.first = some w) (hopen : b.closed = false)
      (hother : (b.flow w.other).isOver = false) : Steps force b .graceOver b.close

theorem steps_of_step (h : b.step force m = some b') : b.Steps force m b' := by
  unfold step at h
  split at h
  · rename_i w fm
    split at h
    · rename_i hmay
      obtain ⟨f, hf, rfl⟩ := Option.map_eq_some_iff.1 h
      exact .flow w fm f hmay hf
    · cases h
  · rename_i w
    split at h
    · rename_i hcond
      obtain rfl := Option.some.inj h
      exact .notice w hcond.1 hcond.2
    · cases h
  · split at h
    · cases h
    · rename_i w hfirst
      split at h
      · cases h
      · rename_i hcond
        obtain ⟨hopen, hother⟩ := not_or.1 hcond
        obtain rfl := Option.some.inj h
        exact .graceOver w hfirst (by simpa using hopen) (by simpa using hother)

end Bridge

/-! ### Directions of a forwarder -/

namespace Forwarder

variable {target : Target} {force : Bool} {f f' : Forwarder} {m : Move} {w : Way}

/-- The moves of a forwarder, and what they come to. -/
inductive Steps (target : Target) (force : Bool) : Forwarder → Move → Forwarder → Prop
  | opened : Steps target force dialing .opened (relaying {})
  | refused (e : Failure) : Steps target force dialing (.refused e) (ended none (.error e))
  | tooLate : Steps target force dialing .tooLate (ended none (.error (late target)))
  | abandon (hforce : force = true) : Steps target force dialing .abandon (ended none (.ok ()))
  | relay (b b' : Bridge) (bm : Bridge.Move) (h : b.Steps force bm b') :
    Steps target force (relaying b) (.relay bm) (relaying b')
  | finish (b : Bridge) (e : Option String) (h : b.outcome? = some e) :
    Steps target force (relaying b) .finish (ended (some b.close) (resultOf e))

theorem steps_of_step (h : f.step target force m = some f') : Steps target force f m f' := by
  unfold step at h
  split at h
  · obtain rfl := Option.some.inj h
    exact .opened
  · obtain rfl := Option.some.inj h
    exact .refused _
  · obtain rfl := Option.some.inj h
    exact .tooLate
  · split at h
    · rename_i hforce
      obtain rfl := Option.some.inj h
      exact .abandon hforce
    · cases h
  · obtain ⟨b', hb, rfl⟩ := Option.map_eq_some_iff.1 h
    exact .relay _ b' _ (Bridge.steps_of_step hb)
  · obtain ⟨e, he, rfl⟩ := Option.map_eq_some_iff.1 h
    exact .finish _ e he
  · cases h

/-- A direction of a forwarder, or a fresh one while there is none. -/
def flow (f : Forwarder) (w : Way) : Flow := (f.bridge?.map fun b => b.flow w).getD {}

/-- What a move of a forwarder is to one direction. -/
def Move.flow? (w : Way) : Move → Option Flow.Move
  | relay (.flow v m) => if v = w then some m else none
  | _ => none

theorem Move.flow?_eq_some {fm : Flow.Move} : m.flow? w = some fm ↔ m = .relay (.flow w fm) := by
  constructor
  · intro h
    unfold flow? at h
    split at h
    · split at h
      · rename_i hv
        rw [hv, Option.some.inj h]
      · cases h
    · cases h
  · rintro rfl
    exact if_pos rfl

/-- A step of a forwarder, as one direction sees it. -/
theorem Steps.flow (h : Steps target force f m f') (w : Way) :
    m.flow? w = none ∧ f'.flow w = f.flow w ∨
      ∃ fm, m.flow? w = some fm ∧ (f.flow w).step fm = some (f'.flow w) := by
  cases h with
  | opened =>
    -- before the channel is there a direction reads as a fresh one, and so it does right after
    refine Or.inl ⟨rfl, ?_⟩
    cases w
    · rfl
    · rfl
  | relay b b' bm h =>
    cases h with
    | flow v fm x hmay hstep =>
      by_cases hv : v = w
      · subst hv
        refine Or.inr ⟨fm, if_pos rfl, hstep.trans (congrArg some ?_)⟩
        exact (Bridge.flow_setFlow_self b v x).symm
      · exact Or.inl ⟨if_neg hv, Bridge.flow_setFlow_of_ne hv b x⟩
    | notice v hfirst hover =>
      refine Or.inl ⟨rfl, ?_⟩
      cases w
      · rfl
      · rfl
    | graceOver v hfirst hopen hother => exact Or.inl ⟨rfl, Bridge.flow_close b w⟩
  | finish b e h => exact Or.inl ⟨rfl, Bridge.flow_close b w⟩
  | _ => exact Or.inl ⟨rfl, rfl⟩

/-- A step of a forwarder is one of one direction, or leaves both as they are. -/
theorem flow_of_step (h : f.step target force m = some f') :
    (∀ w, f'.flow w = f.flow w) ∨
      ∃ w fm, m = .relay (.flow w fm) ∧ (f.flow w).step fm = some (f'.flow w) ∧ f'.flow w.other = f.flow w.other := by
  have hs := steps_of_step h
  by_cases hm : ∃ v fm, m = .relay (.flow v fm)
  · obtain ⟨v, fm, rfl⟩ := hm
    have hown : (f.flow v).step fm = some (f'.flow v) := by
      rcases hs.flow v with ⟨hnone, -⟩ | ⟨x, hx, hstep⟩
      · rw [Move.flow?_eq_some.2 rfl] at hnone
        cases hnone
      · obtain rfl := Option.some.inj ((Move.flow?_eq_some.2 rfl).symm.trans hx)
        exact hstep
    -- the same move is none of the other direction: it names one of the two
    have hother : f'.flow v.other = f.flow v.other := by
      rcases hs.flow v.other with ⟨-, hsame⟩ | ⟨x, hx, -⟩
      · exact hsame
      · have hboth := Move.flow?_eq_some.1 hx
        cases v
        · cases hboth
        · cases hboth
    exact Or.inr ⟨v, fm, rfl, hown, hother⟩
  · left
    intro w
    rcases hs.flow w with ⟨-, hsame⟩ | ⟨fm, hfm, -⟩
    · exact hsame
    · exact absurd ⟨w, fm, Move.flow?_eq_some.1 hfm⟩ hm

end Forwarder

end SshTunnel

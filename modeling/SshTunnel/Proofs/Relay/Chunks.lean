import Mathlib.Tactic.Common
import SshTunnel.Proofs.Relay.Flow
import SshTunnel.Proofs.Runs

/-!
One direction of a relay chunk by chunk.  However its source is cut into chunks, and wherever a chunk is cut while it
is written, the sink gets a beginning of the source, and what is counted are the chunks that it got completely.
-/

namespace SshTunnel.Flow

variable {source : Bytes} {ms : List Move} {f f' : Flow} {m : Move}

theorem isRun : IsRun step run := ⟨fun _ => rfl, fun _ _ _ => rfl⟩

/-! ### Chunks -/

def Move.chunk? : Move → Option Bytes
  | read chunk => some chunk
  | _ => none

/-- The chunks that are read. -/
def chunks (ms : List Move) : List Bytes := ms.filterMap Move.chunk?

/-- Whether the moves agree with a source: each chunk is what comes next, and the end is seen behind the last byte
only. -/
def draws : Bytes → List Move → Bool
  | _, [] => true
  | source, .read chunk :: ms => chunk.isPrefixOf source && draws (source.drop chunk.length) ms
  | source, .readEnd :: ms => source.isEmpty && draws source ms
  | source, _ :: ms => draws source ms

/-- The size of the chunks, from the first one, that are complete when `n` bytes have been written. -/
def complete : Nat → List Bytes → Nat
  | _, [] => 0
  | n, c :: cs => if c.length ≤ n then c.length + complete (n - c.length) cs else 0

theorem complete_append (cs ds : List Bytes) (n : Nat) :
    complete (cs.flatten.length + n) (cs ++ ds) = cs.flatten.length + complete n ds := by
  induction cs with
  | nil => simp
  | cons c cs ih =>
    have hle : c.length ≤ (c :: cs).flatten.length + n := by
      rw [List.flatten_cons, List.length_append]
      omega
    have hrest : (c :: cs).flatten.length + n - c.length = cs.flatten.length + n := by
      rw [List.flatten_cons, List.length_append]
      omega
    rw [List.cons_append, complete, if_pos hle, hrest, ih, List.flatten_cons, List.length_append, Nat.add_assoc]

theorem complete_flatten (cs : List Bytes) : complete cs.flatten.length cs = cs.flatten.length := by
  have h := complete_append cs [] 0
  simpa [complete] using h

theorem complete_le (n : Nat) (cs : List Bytes) : complete n cs ≤ n := by
  induction cs generalizing n with
  | nil => exact Nat.zero_le n
  | cons c cs ih =>
    rw [complete]
    split
    · have hrest : complete (n - c.length) cs ≤ n - c.length := ih (n - c.length)
      omega
    · exact Nat.zero_le n

theorem chunks_snoc (ms : List Move) (m : Move) : chunks (ms ++ [m]) = chunks ms ++ m.chunk?.toList :=
  filterMap_snoc Move.chunk? ms m

/-- A chunk is not complete before its last byte is written. -/
theorem complete_last (before : List Bytes) (chunk : Bytes) (n : Nat) :
    complete (before.flatten.length + n) (before ++ [chunk]) =
      before.flatten.length + if chunk.length ≤ n then chunk.length else 0 := by
  rw [complete_append, complete, complete, Nat.add_zero]

/-- What is drawn from a source is what it begins with, and all of it once its end is seen. -/
theorem draws_isPrefix (h : draws source ms = true) :
    (chunks ms).flatten <+: source ∧ (.readEnd ∈ ms → (chunks ms).flatten = source) := by
  -- each chunk that is read is taken off the source, so the source of the rest is a shorter one
  induction ms generalizing source with
  | nil => exact ⟨List.nil_prefix, nofun⟩
  | cons m ms ih =>
    cases m with
    | read chunk =>
      rw [draws, Bool.and_eq_true] at h
      obtain ⟨rest, rfl⟩ := List.isPrefixOf_iff_prefix.1 h.1
      rw [List.drop_left] at h
      obtain ⟨hwithin, hend⟩ := ih h.2
      have hflat : (chunks (.read chunk :: ms)).flatten = chunk ++ (chunks ms).flatten := rfl
      rw [hflat]
      refine ⟨(List.prefix_append_right_inj chunk).2 hwithin, fun hmem => ?_⟩
      rw [hend (by simpa using hmem)]
    | readEnd =>
      rw [draws, Bool.and_eq_true] at h
      obtain rfl := List.isEmpty_iff.1 h.1
      -- the end is only seen at an empty source, from which nothing more can be drawn
      have hwithin : (chunks ms).flatten <+: [] := (ih h.2).1
      exact ⟨hwithin, fun _ => List.prefix_nil.1 hwithin⟩
    | _ =>
      obtain ⟨hwithin, hend⟩ := ih h
      exact ⟨hwithin, fun hmem => hend (by simpa using hmem)⟩

/-! ### Progress -/

/-- Still relaying. -/
def isOpen (f : Flow) : Bool :=
  match f.stage with
  | .reading | .writing .. => true
  | .closing _ | .ended _ => false

/-- How far a direction has come by its moves. -/
structure Progress (ms : List Move) (f : Flow) : Prop where
  taken : f.taken = (chunks ms).flatten
  sizes : ∀ c ∈ chunks ms, c ≠ [] ∧ c.length ≤ chunkSize
  faithful : Faithful f.taken f
  counted : f.counted = complete f.delivered.length (chunks ms)
  writing : ∀ rest size, f.stage = .writing rest size → rest ≠ [] ∧
    ∃ before chunk, chunks ms = before ++ [chunk] ∧ chunk.length = size ∧ rest.length ≤ size
  shutdowns : f.shutdowns = if f.isOpen then [] else [f.delivered.length]
  ended : .readEnd ∈ ms → (f.stage = .closing none ∨ f.stage = .ended none) ∧ f.delivered = f.taken

theorem progress_fresh : Progress [] {} :=
  ⟨rfl, nofun, faithful_fresh _, rfl, nofun, rfl, nofun⟩

/-- Whoever relays has not seen the end. -/
theorem Progress.not_ended (h : Progress ms f) (hopen : f.isOpen = true) : .readEnd ∉ ms := by
  intro hmem
  rcases (h.ended hmem).1 with hst | hst
  · rw [isOpen, hst] at hopen
    cases hopen
  · rw [isOpen, hst] at hopen
    cases hopen

/-- How much of the last chunk has been written. -/
theorem Progress.written {rest : Bytes} {size : Nat} (h : Progress ms f) (hst : f.stage = .writing rest size) :
    ∃ before chunk, chunks ms = before ++ [chunk] ∧ chunk.length = size ∧ 0 < rest.length ∧ rest.length ≤ size ∧
      f.delivered.length = before.flatten.length + (size - rest.length) := by
  obtain ⟨hsome, before, chunk, hchunks, hsize, hle⟩ := h.writing rest size hst
  have hall : f.delivered ++ rest = before.flatten ++ chunk := by
    rw [h.faithful.writing rest size hst, h.taken, hchunks, List.flatten_append, List.flatten_singleton]
  have hlen := congrArg List.length hall
  rw [List.length_append, List.length_append] at hlen
  exact ⟨before, chunk, hchunks, hsize, List.length_pos_iff.2 hsome, hle, by omega⟩

/-- A move that reads nothing. -/
theorem chunks_snoc_of_not_read (hm : ∀ chunk, m ≠ .read chunk) : chunks (ms ++ [m]) = chunks ms := by
  rw [chunks_snoc]
  cases m with
  | read chunk => exact absurd rfl (hm chunk)
  | _ => exact List.append_nil _

theorem Progress.read {chunk : Bytes} (h : Progress ms f) (hst : f.stage = .reading) (hsome : chunk ≠ [])
    (hsize : chunk.length ≤ chunkSize) :
    Progress (ms ++ [.read chunk]) { f with taken := f.taken ++ chunk, stage := .writing chunk chunk.length } := by
  have hchunks : chunks (ms ++ [.read chunk]) = chunks ms ++ [chunk] := chunks_snoc ms _
  -- a direction that reads has written out every chunk before
  have hall : f.delivered = (chunks ms).flatten := (h.faithful.reading hst).trans h.taken
  have hpos : ¬ chunk.length ≤ 0 := by simpa using hsome
  refine ⟨?_, ?_, ?_, ?_, ?_, ?_, ?_⟩
  · rw [hchunks, List.flatten_append, List.flatten_singleton]
    exact congrArg (· ++ chunk) h.taken
  · intro c hc
    rw [hchunks] at hc
    rcases List.mem_append.1 hc with hc | hc
    · exact h.sizes c hc
    · rw [List.mem_singleton.1 hc]
      exact ⟨hsome, hsize⟩
  · refine (h.faithful.mono (List.prefix_append f.taken chunk)).read hst ?_
    rw [List.drop_left]
  · -- nothing of the new chunk has been written
    have hold := h.counted
    rw [hall, complete_flatten] at hold
    dsimp only
    rw [hchunks, hall, hold]
    have hlast := complete_last (chunks ms) chunk 0
    rw [if_neg hpos] at hlast
    exact hlast.symm
  · rintro rest size hw
    obtain ⟨rfl, rfl⟩ := Flow.Stage.writing.inj hw
    exact ⟨hsome, _, _, hchunks, rfl, Nat.le_refl _⟩
  · have hold := h.shutdowns
    rw [isOpen, hst] at hold
    exact hold
  · intro hmem
    have hopen : f.isOpen = true := by rw [isOpen, hst]
    exact absurd (by simpa using hmem) (h.not_ended hopen)

theorem Progress.deliver {rest : Bytes} {size n : Nat} (h : Progress ms f) (hst : f.stage = .writing rest size)
    (hle : n ≤ rest.length) : Progress (ms ++ [.accept n]) (f.deliver n rest size) := by
  have hchunks : chunks (ms ++ [.accept n]) = chunks ms := chunks_snoc_of_not_read nofun
  obtain ⟨before, chunk, hlast, hsize, hsome, hrest, hlen⟩ := h.written hst
  have hopen : f.isOpen = true := by rw [isOpen, hst]
  refine ⟨?_, ?_, ?_, ?_, ?_, ?_, ?_⟩
  · rw [hchunks]
    exact h.taken
  · rw [hchunks]
    exact h.sizes
  · exact h.faithful.deliver hst
  · -- the chunk is counted when its last byte is delivered, so `split` is on whether these `n` bytes are the rest
    have hnew : (f.deliver n rest size).delivered.length = before.flatten.length + (size - rest.length + n) := by
      dsimp only [Flow.deliver]
      rw [List.length_append, List.length_take, hlen]
      omega
    have hold := h.counted
    rw [hlen, hlast, complete_last, if_neg (by omega)] at hold
    rw [hnew, hchunks, hlast, complete_last, hsize]
    dsimp only [Flow.deliver]
    split
    · rw [if_pos (by omega), hold, Nat.add_zero]
    · rw [if_neg (by omega), hold]
  · intro rest' size' hw
    -- with the whole rest gone the direction reads again, and there is nothing to say
    by_cases hfull : n = rest.length
    · simp [Flow.deliver, hfull] at hw
    · simp only [Flow.deliver, hfull, if_false] at hw
      obtain ⟨rfl, rfl⟩ := Flow.Stage.writing.inj hw
      have hlength : (rest.drop n).length = rest.length - n := List.length_drop
      refine ⟨?_, before, chunk, hchunks.trans hlast, hsize, by omega⟩
      rw [← List.length_pos_iff]
      omega
  · have hold := h.shutdowns
    rw [hopen] at hold
    have hopen' : (f.deliver n rest size).isOpen = true := by
      by_cases hfull : n = rest.length
      · simp [isOpen, Flow.deliver, hfull]
      · simp [isOpen, Flow.deliver, hfull]
    rw [hopen']
    exact hold
  · intro hmem
    exact absurd (by simpa using hmem) (h.not_ended hopen)

theorem Progress.close (h : Progress ms f) (error : Option String) (hread : ∀ chunk, m ≠ .read chunk)
    (hopen : f.isOpen = true) (hend : m = .readEnd → error = none ∧ f.stage = .reading) :
    Progress (ms ++ [m]) (f.close error) := by
  have hchunks : chunks (ms ++ [m]) = chunks ms := chunks_snoc_of_not_read hread
  refine ⟨?_, ?_, h.faithful.close error, ?_, nofun, ?_, ?_⟩
  · rw [hchunks]
    exact h.taken
  · rw [hchunks]
    exact h.sizes
  · rw [hchunks]
    exact h.counted
  · have hold := h.shutdowns
    rw [if_pos hopen] at hold
    exact congrArg (· ++ [f.delivered.length]) hold
  · intro hmem
    rcases List.mem_append.1 hmem with hmem | hmem
    · exact absurd hmem (h.not_ended hopen)
    · obtain ⟨rfl, hst⟩ := hend (List.mem_singleton.1 hmem).symm
      exact ⟨Or.inl rfl, h.faithful.reading hst⟩

theorem Progress.shut {error : Option String} (h : Progress ms f) (hst : f.stage = .closing error) :
    Progress (ms ++ [.shut]) { f with stage := .ended error } := by
  have hchunks : chunks (ms ++ [.shut]) = chunks ms := chunks_snoc_of_not_read nofun
  refine ⟨?_, ?_, ⟨h.faithful.taken, h.faithful.delivered, nofun, nofun⟩, ?_, nofun, ?_, ?_⟩
  · rw [hchunks]
    exact h.taken
  · rw [hchunks]
    exact h.sizes
  · rw [hchunks]
    exact h.counted
  · have hold := h.shutdowns
    rw [isOpen, hst] at hold
    exact hold
  · intro hmem
    obtain ⟨hstage, hall⟩ := h.ended (by simpa using hmem)
    refine ⟨Or.inr ?_, hall⟩
    rw [hst] at hstage
    rcases hstage with hstage | hstage
    · rw [Flow.Stage.closing.inj hstage]
    · cases hstage

/-- The end of the source is seen while nothing is left to write. -/
theorem close_of_readEnd (h : f.step .readEnd = some f') : f.stage = .reading ∧ f' = f.close none := by
  unfold step at h
  cases hst : f.stage with
  | reading =>
    rw [hst] at h
    exact ⟨rfl, (Option.some.inj h).symm⟩
  | _ =>
    rw [hst] at h
    cases h

theorem Progress.step (h : Progress ms f) (hs : f.step m = some f') : Progress (ms ++ [m]) f' := by
  cases steps_of_step hs with
  | read chunk hst hsome hsize => exact h.read hst hsome hsize
  | deliver n rest size hst hpos hle => exact h.deliver hst hle
  | close m error hread hst =>
    have hopen : f.isOpen = true := by
      rcases hst with hst | ⟨rest, size, hst⟩
      · rw [isOpen, hst]
      · rw [isOpen, hst]
    refine h.close error hread hopen ?_
    rintro rfl
    obtain ⟨hst', hclose⟩ := close_of_readEnd hs
    exact ⟨Flow.Stage.closing.inj (congrArg Flow.stage hclose), hst'⟩
  | shut error hst => exact h.shut hst

theorem progress_of_run (h : run {} ms = some f) : Progress ms f :=
  isRun.induction progress_fresh (fun _ _ _ _ _ hp hs => hp.step hs) h

/-- What a direction has come to by its moves, reading from a source. -/
structure Relayed (source : Bytes) (ms : List Move) (f : Flow) : Prop where
  taken : f.taken = (chunks ms).flatten ∧ f.taken <+: source
  delivered : f.delivered <+: f.taken
  counted : f.counted = complete f.delivered.length (chunks ms)
  bounds : f.counted ≤ f.delivered.length ∧ f.delivered.length ≤ f.taken.length
  whole : .readEnd ∈ ms → (f.stage = .closing none ∨ f.stage = .ended none) ∧
    f.taken = source ∧ f.delivered = source ∧ f.counted = source.length
  /-- The sink is asked to shut down when relaying is over, and gets nothing any more. -/
  shutdowns : f.shutdowns = if f.isOpen then [] else [f.delivered.length]

theorem relayed_of_run (hdraws : draws source ms = true) (h : run {} ms = some f) : Relayed source ms f := by
  have hp := progress_of_run h
  obtain ⟨hwithin, hend⟩ := draws_isPrefix hdraws
  refine ⟨⟨hp.taken, hp.taken ▸ hwithin⟩, hp.faithful.delivered, hp.counted, ⟨?_, ?_⟩, fun hmem => ?_, hp.shutdowns⟩
  · rw [hp.counted]
    exact complete_le ..
  · exact hp.faithful.delivered.length_le
  · obtain ⟨hst, hall⟩ := hp.ended hmem
    have htaken : f.taken = source := hp.taken.trans (hend hmem)
    have hcounted : f.counted = source.length := by
      rw [hp.counted, hall, hp.taken, complete_flatten, hend hmem]
    exact ⟨hst, htaken, hall.trans htaken, hcounted⟩

end SshTunnel.Flow

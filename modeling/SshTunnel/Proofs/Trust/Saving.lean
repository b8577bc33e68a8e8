import Mathlib.Tactic.Common
import SshTunnel.Proofs.Trust.File
import SshTunnel.Trust.Saving

/-!
What an attempt to add a key does to the file and to the memory.  All that ever happens to the file is that a
line is put behind what was there, with an end for a line that had none; an attempt that fails does nothing,
in spite of its steps.
-/

namespace SshTunnel.TrustStore

open Text

variable {s : TrustStore} {a : Attempt}

/-! ### The steps together -/

theorem run_appendLine (refusal : Option SystemError) (line : String) (s : TrustStore) :
    (Saving.appendLine refusal line).run s = match refusal, s.place with
      | some why, _ | none, .unusable why => .error (.system why.text) s
      | none, .absent => .ok () { s with place := .file (appended [] line) }
      | none, .file c => .ok () { s with place := .file (appended c line) } := by
  obtain ⟨entries, place⟩ := s
  cases refusal with
  | some why => rfl
  | none =>
    cases place with
    | absent => rfl
    | unusable why => rfl
    | file c =>
      by_cases hc : c ≠ [] ∧ c.getLast? ≠ some 10
      · have hun : Saving.isUnfinished (.file c) = true := by simpa [Saving.isUnfinished] using hc
        simp [Saving.appendLine, hun, Saving.openFile, Saving.write, appended, hc]
      · have hun : Saving.isUnfinished (.file c) = false := by simpa [Saving.isUnfinished] using hc
        simp only [appended, if_neg hc, List.append_nil, List.append_assoc]
        simp [Saving.appendLine, hun, Saving.openFile, Saving.write]

theorem attempt_of_verified (h : s.verdict a.host a.port a.key = .verified) : s.attempt a = .ok () s := by
  simp [attempt, Attempt.steps, h]

theorem attempt_of_not_verified (h : s.verdict a.host a.port a.key ≠ .verified) :
    s.attempt a = match (Saving.appendLine a.refusal a.entry.line).run s with
      | .ok _ s' => .ok () { s' with entries := s'.entries ++ [a.entry] }
      | .error f s' => .error f s' := by
  simp only [attempt, Attempt.steps, EStateM.run_bind, EStateM.run_get, h, if_false]
  cases (Saving.appendLine a.refusal a.entry.line).run s <;> rfl

/-- How an attempt ends and what it leaves. -/
inductive Ends (s : TrustStore) (a : Attempt) : EStateM.Result Failure TrustStore Unit → Prop
  | known (h : s.verdict a.host a.port a.key = .verified) : Ends s a (.ok () s)
  | refused (f : Failure) : Ends s a (.error f s)
  | written : Ends s a (.ok () ⟨s.entries ++ [a.entry], .file (appended s.place.content a.entry.line)⟩)

theorem ends_attempt (s : TrustStore) (a : Attempt) : Ends s a (s.attempt a) := by
  by_cases hv : s.verdict a.host a.port a.key = .verified
  · rw [attempt_of_verified hv]
    exact .known hv
  · rw [attempt_of_not_verified hv, run_appendLine]
    obtain ⟨entries, place⟩ := s
    cases a.refusal with
    | some why => exact .refused _
    | none =>
      cases place with
      | unusable why => exact .refused _
      | absent => exact .written
      | file c => exact .written

/-- Where the system refuses nothing, the steps come to what adding comes to. -/
theorem attempt_eq_add (h : a.refusal = none) :
    s.attempt a = match s.add a.host a.port a.key with
      | .ok s' => .ok () s'
      | .error f => .error f s := by
  unfold add
  by_cases hv : s.verdict a.host a.port a.key = .verified
  · rw [attempt_of_verified hv, if_pos hv]
  · rw [attempt_of_not_verified hv, run_appendLine, if_neg hv, append, h]
    cases hp : s.place <;> rfl

/-! ### Lines -/

/-- The lines of a file that end in it. -/
def endedLines (content : Bytes) : List Bytes := (pieces (· = 10) content).dropLast

/-- All lines of a file, without their ends; the last one may have none. -/
def allLines (content : Bytes) : List Bytes :=
  if (pieces (· = 10) content).getLast? = some [] then endedLines content
  else pieces (· = 10) content

example : allLines [35, 10, 10, 104] = [[35], [], [104]] ∧ endedLines [35, 10, 10, 104] = [[35], []] := by
  decide

theorem endedLines_append_newline (content : Bytes) :
    endedLines (content ++ [10]) = pieces (· = 10) content := by
  rw [endedLines, pieces_newline]
  simp [pieces]

theorem allLines_isPrefix (content : Bytes) : allLines content <+: pieces (· = 10) content := by
  unfold allLines
  split
  · exact List.dropLast_prefix _
  · exact List.prefix_rfl

/-- **What is appended leaves the lines before it as they were, and ends the last of them.** -/
theorem allLines_appended (content : Bytes) (line : String) :
    allLines content <+: endedLines (appended content line) := by
  unfold appended
  split
  · rw [endedLines_append_newline, List.append_assoc, List.singleton_append, pieces_newline]
    exact (allLines_isPrefix content).trans (List.prefix_append _ _)
  · rename_i hend
    rw [endedLines_append_newline, List.append_nil]
    rcases List.eq_nil_or_concat content with rfl | ⟨start, last, rfl⟩
    · simp [allLines, endedLines, pieces]
    · -- the last line has its end already, so that nothing stands behind it
      obtain rfl : last = 10 := by simpa using hend
      rw [List.concat_eq_append, List.append_assoc, List.singleton_append, pieces_newline, allLines,
        pieces_newline]
      have hlast : pieces (fun b : UInt8 => decide (b = 10)) [] = [[]] := rfl
      rw [hlast, if_pos (by simp), endedLines_append_newline]
      exact List.prefix_append _ _

theorem isPrefix_appended (content : Bytes) (line : String) : content <+: appended content line := by
  unfold appended
  rw [List.append_assoc, List.append_assoc]
  exact List.prefix_append _ _

theorem endedLines_isPrefix (content : Bytes) : endedLines content <+: allLines content := by
  unfold allLines
  split
  · exact List.prefix_rfl
  · exact List.dropLast_prefix _

/-! ### One attempt -/

/-- What an attempt may do to the file and the memory: nothing, if it fails; else the file keeps its content in
front of whatever is new, and where something is new all the lines of old have their ends. -/
structure Appends (s : TrustStore) (r : EStateM.Result Failure TrustStore Unit) : Prop where
  content : s.place.content <+: (left r).place.content
  lines : (left r).place = s.place ∨ allLines s.place.content <+: endedLines (left r).place.content
  failed : ∀ f s', r = .error f s' → s'.place = s.place ∧ ∀ host port,
    s'.trustedKeys host port = s.trustedKeys host port ∧ ∀ k, s'.verdict host port k = s.verdict host port k

theorem Ends.appends {r : EStateM.Result Failure TrustStore Unit} (h : Ends s a r) : Appends s r := by
  cases h with
  | known hv =>
    exact ⟨List.prefix_rfl, Or.inl rfl, fun f s' hr => by cases hr⟩
  | refused f =>
    refine ⟨List.prefix_rfl, Or.inl rfl, fun f s' hr => ?_⟩
    cases hr
    exact ⟨rfl, fun host port => ⟨rfl, fun k => rfl⟩⟩
  | written =>
    exact ⟨isPrefix_appended _ a.entry.line, Or.inr (allLines_appended _ a.entry.line),
      fun f s' hr => by cases hr⟩

/-! ### Many attempts -/

/-- One content goes on where another ends, and has its lines. -/
structure Continues (c c' : Bytes) : Prop where
  content : c <+: c'
  lines : allLines c <+: allLines c'

theorem Continues.refl (c : Bytes) : Continues c c := ⟨List.prefix_rfl, List.prefix_rfl⟩

theorem Continues.trans {c c' c'' : Bytes} (h : Continues c c') (h' : Continues c' c'') : Continues c c'' :=
  ⟨h.content.trans h'.content, h.lines.trans h'.lines⟩

theorem Appends.continues {r : EStateM.Result Failure TrustStore Unit} (h : Appends s r) :
    Continues s.place.content (left r).place.content := by
  refine ⟨h.content, ?_⟩
  rcases h.lines with hp | hl
  · simp only [hp, List.prefix_rfl]
  · exact hl.trans (endedLines_isPrefix _)

theorem continues_afterAttempts : ∀ (as : List Attempt) (s : TrustStore),
    Continues s.place.content (s.afterAttempts as).place.content
  | [], _ => Continues.refl _
  | a :: as, s => (ends_attempt s a).appends.continues.trans (continues_afterAttempts as (left (s.attempt a)))

/-- **The file of a trust store is only ever appended to, and what fails does nothing.** -/
theorem append_only (p : Place) (as : List Attempt) (a : Attempt) :
    Appends ((ofPlace p).afterAttempts as) (((ofPlace p).afterAttempts as).attempt a) ∧
      Continues p.content ((ofPlace p).afterAttempts as).place.content :=
  ⟨(ends_attempt _ a).appends, continues_afterAttempts as (ofPlace p)⟩

end SshTunnel.TrustStore

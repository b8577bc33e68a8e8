import Mathlib.Tactic.Common
import SshTunnel.Text.Blank
import SshTunnel.Text.Lower

/-!
Lower case once and for all: a text in lower case is its own lower case.  The letters of the table are
looked at run by run; no run lowers anything into a run, nor into one of the characters that mean something in
the lines of a trust store.
-/

namespace SshTunnel.Text

/-! ### The runs of the table -/

/-- Nothing that the first run lowers to lies in the second.  The comparisons are such as are quickly decided
for the whole table. -/
def CaseRun.apart (r t : CaseRun) : Bool :=
  Nat.blt (r.lowered + (r.last - r.first)) t.first || Nat.blt t.last r.lowered ||
    (Nat.beq t.step 2 && (Nat.beq r.step 2 || Nat.beq r.first r.last) &&
      Nat.beq ((r.lowered + t.first) % 2) 1)

/-- A run lowers to something else than the code point `n`. -/
def CaseRun.misses (r : CaseRun) (n : Nat) : Bool :=
  n < r.lowered || r.lowered + (r.last - r.first) < n

theorem CaseRun.covers_of_apart {r t : CaseRun} {n : Nat} (h : r.apart t) (hn : r.covers n) :
    t.covers (r.lowered + (n - r.first)) = false := by
  simp only [apart, Bool.or_eq_true, Bool.and_eq_true, Nat.blt_eq, Nat.beq_eq] at h
  simp only [covers, Bool.and_eq_true, decide_eq_true_eq, beq_iff_eq] at hn
  rw [← Bool.not_eq_true]
  simp only [covers, Bool.and_eq_true, decide_eq_true_eq, beq_iff_eq]
  rintro ⟨⟨h1, h2⟩, h3⟩
  obtain ⟨⟨hn1, hn2⟩, hn3⟩ := hn
  rcases h with (h | h) | ⟨⟨ht, hr⟩, hodd⟩
  · omega
  · omega
  · -- both go in steps of two, at different parities
    rw [ht] at h3
    rcases hr with hr | hr
    · rw [hr] at hn3
      omega
    · omega

theorem CaseRun.ne_of_misses {r : CaseRun} {m n : Nat} (h : r.misses m) (hn : r.covers n) :
    r.lowered + (n - r.first) ≠ m := by
  simp only [misses, Bool.or_eq_true, decide_eq_true_eq] at h
  simp only [covers, Bool.and_eq_true, decide_eq_true_eq] at hn
  omega

/-- Blanks, commas, and the marks of comments and of hashed names. -/
def markPoints : List Nat := [
  9, 10, 11, 12, 13, 0x20, 0x85, 0xA0, 0x1680, 0x2000, 0x2001, 0x2002, 0x2003, 0x2004, 0x2005, 0x2006, 0x2007,
  0x2008, 0x2009, 0x200A, 0x2028, 0x2029, 0x202F, 0x205F, 0x3000, 0x2C, 0x23, 0x7C]

/-- What a run lowers to are code points of characters. -/
def CaseRun.isValid (r : CaseRun) : Bool :=
  r.lowered + (r.last - r.first) < 0xD800 || 0xDFFF < r.lowered && r.lowered + (r.last - r.first) < 0x110000

/-- What the table is like, run by run: all of it is looked at once. -/
def CaseRun.isSound (r : CaseRun) : Bool :=
  lowerRuns.all r.apart && (0x130 :: 0x3A3 :: markPoints).all r.misses && r.isValid &&
    (r.first = 65 && r.last = 90 || 128 ≤ r.first) && [0x307, 0x3C2, 0x3C3].all fun n => !r.covers n

theorem lowerRuns_sound : ∀ r ∈ lowerRuns, r.isSound := by decide +kernel

theorem lowerRuns_apart : ∀ r ∈ lowerRuns, lowerRuns.all r.apart = true := by
  intro r hr
  have h := lowerRuns_sound r hr
  simp only [CaseRun.isSound, Bool.and_eq_true] at h
  exact h.1.1.1.1

theorem lowerRuns_miss_marks : ∀ r ∈ lowerRuns, ∀ n ∈ 0x130 :: 0x3A3 :: markPoints, r.misses n := by
  intro r hr
  have h := lowerRuns_sound r hr
  simp only [CaseRun.isSound, Bool.and_eq_true] at h
  exact List.all_eq_true.1 h.1.1.1.2

theorem lowerRuns_valid : ∀ r ∈ lowerRuns, r.lowered + (r.last - r.first) < 0xD800 ∨
    0xDFFF < r.lowered ∧ r.lowered + (r.last - r.first) < 0x110000 := by
  intro r hr
  have h := lowerRuns_sound r hr
  simp only [CaseRun.isSound, Bool.and_eq_true] at h
  simpa [CaseRun.isValid] using h.1.1.2

theorem lowerRuns_ascii : ∀ r ∈ lowerRuns, r.first = 65 ∧ r.last = 90 ∨ 128 ≤ r.first := by
  intro r hr
  have h := lowerRuns_sound r hr
  simp only [CaseRun.isSound, Bool.and_eq_true] at h
  simpa using h.1.2

/-- The dot above and the two small sigmas are no upper-case letters. -/
theorem lowerRuns_uncover {n : Nat} (hn : n ∈ [0x307, 0x3C2, 0x3C3]) : ∀ r ∈ lowerRuns, r.covers n = false := by
  intro r hr
  have h := lowerRuns_sound r hr
  simp only [CaseRun.isSound, Bool.and_eq_true] at h
  simpa using List.all_eq_true.1 h.2 n hn

theorem mem_markPoints_of_isBlank {c : Char} (h : isBlank c) : c.toNat ∈ markPoints := by
  simp only [isBlank, Bool.or_eq_true, Bool.and_eq_true, decide_eq_true_eq, beq_iff_eq] at h
  simp only [markPoints, List.mem_cons, List.not_mem_nil, or_false]
  omega

/-! ### Letters -/

/-- A character that is its own lower case. -/
def Settled (c : Char) : Prop := lowerChar c = [c] ∧ c ≠ 'Σ'

theorem settled_of_uncovered {c : Char} (hi : c.toNat ≠ 0x130)
    (h : ∀ r ∈ lowerRuns, r.covers c.toNat = false) : Settled c := by
  refine ⟨?_, ?_⟩
  · unfold lowerChar
    rw [if_neg hi, List.find?_eq_none.2 fun r hr => by simp [h r hr]]
  · rintro rfl
    exact absurd h (by decide +kernel)

theorem settled_of_ascii {c : Char} (h : c.toNat < 128) (hc : c.toNat < 65 ∨ 90 < c.toNat) : Settled c := by
  refine settled_of_uncovered (by omega) fun r hr => ?_
  rw [← Bool.not_eq_true]
  simp only [CaseRun.covers, Bool.and_eq_true, decide_eq_true_eq]
  have := lowerRuns_ascii r hr
  omega

theorem toNat_ofNat_lowered {r : CaseRun} (hr : r ∈ lowerRuns) {n : Nat} (hn : r.covers n) :
    (Char.ofNat (r.lowered + (n - r.first))).toNat = r.lowered + (n - r.first) := by
  simp only [CaseRun.covers, Bool.and_eq_true, decide_eq_true_eq] at hn
  have hv : (r.lowered + (n - r.first)).isValidChar := by
    have := lowerRuns_valid r hr
    unfold Nat.isValidChar
    omega
  rw [Char.ofNat, dif_pos hv]
  rfl

/-- The lower case of a letter is settled, and is no mark unless the letter itself is. -/
theorem settled_of_mem_lowerChar {c d : Char} (h : d ∈ lowerChar c) :
    Settled d ∧ (d = c ∨ d.toNat ∉ markPoints) := by
  unfold lowerChar at h
  -- the one letter whose lower case is two characters
  by_cases hi : c.toNat = 0x130
  · rw [if_pos hi] at h
    simp only [List.mem_cons, List.not_mem_nil, or_false] at h
    rcases h with rfl | rfl
    · exact ⟨settled_of_ascii (by decide) (by decide), Or.inr (by decide)⟩
    · exact ⟨settled_of_uncovered (by decide) (lowerRuns_uncover (by decide)), Or.inr (by decide)⟩
  · rw [if_neg hi] at h
    cases hf : lowerRuns.find? fun r => r.covers c.toNat with
    | none =>
      obtain rfl : d = c := by simpa [hf] using h
      refine ⟨settled_of_uncovered hi fun r hr => ?_, Or.inl rfl⟩
      simpa using List.find?_eq_none.1 hf r hr
    | some r =>
      have hr := List.mem_of_find?_eq_some hf
      have hc : r.covers c.toNat := by simpa using List.find?_some hf
      obtain rfl : d = Char.ofNat (r.lowered + (c.toNat - r.first)) := by simpa [hf] using h
      have hd := toNat_ofNat_lowered hr hc
      refine ⟨settled_of_uncovered ?_ fun t ht => ?_, Or.inr fun hm => ?_⟩
      · rw [hd]
        exact CaseRun.ne_of_misses (lowerRuns_miss_marks r hr _ (by simp)) hc
      · rw [hd]
        exact CaseRun.covers_of_apart (List.all_eq_true.1 (lowerRuns_apart r hr) t ht) hc
      · rw [hd] at hm
        exact CaseRun.ne_of_misses (lowerRuns_miss_marks r hr _ (by simp [hm])) hc rfl

theorem lowerChar_ne_nil (c : Char) : lowerChar c ≠ [] := by
  unfold lowerChar
  split
  · simp
  · split <;> simp

/-! ### Texts -/

/-- What a character contributes to the lower case of a text, wherever it stands. -/
theorem lowerFrom_cons (before : List Char) (c : Char) (rest : List Char) :
    ∃ here, lowerFrom before (c :: rest) = here ++ lowerFrom (c :: before) rest ∧ here ≠ [] ∧
      ∀ d ∈ here, Settled d ∧ (d = c ∨ d.toNat ∉ markPoints) := by
  refine ⟨_, rfl, ?_, ?_⟩
  · split
    · split <;> simp
    · exact lowerChar_ne_nil c
  · intro d hd
    split at hd
    · split at hd
      · obtain rfl := List.mem_singleton.1 hd
        exact ⟨settled_of_uncovered (by decide) (lowerRuns_uncover (by decide)), Or.inr (by decide)⟩
      · obtain rfl := List.mem_singleton.1 hd
        exact ⟨settled_of_uncovered (by decide) (lowerRuns_uncover (by decide)), Or.inr (by decide)⟩
    · exact settled_of_mem_lowerChar hd

theorem settled_of_mem_lowerFrom {d : Char} : ∀ {s before : List Char}, d ∈ lowerFrom before s → Settled d
  | [], _, h => by simp [lowerFrom] at h
  | c :: s, before, h => by
    obtain ⟨here, heq, -, hhere⟩ := lowerFrom_cons before c s
    rw [heq, List.mem_append] at h
    rcases h with h | h
    · exact (hhere d h).1
    · exact settled_of_mem_lowerFrom h

theorem lowerFrom_of_settled : ∀ {s before : List Char}, (∀ c ∈ s, Settled c) → lowerFrom before s = s
  | [], _, _ => rfl
  | c :: s, before, h => by
    obtain ⟨hc, hsigma⟩ := h c (by simp)
    rw [lowerFrom, lowerFrom_of_settled fun d hd => h d (List.mem_cons_of_mem _ hd)]
    simp [hsigma, hc]

/-- A mark in the lower case of a text stood in the text. -/
theorem mem_of_mem_lowerFrom {d : Char} (hd : d.toNat ∈ markPoints) :
    ∀ {s before : List Char}, d ∈ lowerFrom before s → d ∈ s
  | [], _, h => by simp [lowerFrom] at h
  | c :: s, before, h => by
    obtain ⟨here, heq, -, hhere⟩ := lowerFrom_cons before c s
    rw [heq, List.mem_append] at h
    rcases h with h | h
    · rcases (hhere d h).2 with rfl | hn
      · exact List.mem_cons_self ..
      · exact absurd hd hn
    · exact List.mem_cons_of_mem _ (mem_of_mem_lowerFrom hd h)

theorem head?_of_head?_lowerFrom {d : Char} (hd : d.toNat ∈ markPoints) {s before : List Char}
    (h : (lowerFrom before s).head? = some d) : s.head? = some d := by
  cases s with
  | nil => simp [lowerFrom] at h
  | cons c s =>
    obtain ⟨here, heq, hne, hhere⟩ := lowerFrom_cons before c s
    obtain ⟨e, es, rfl⟩ := List.exists_cons_of_ne_nil hne
    obtain rfl : e = d := by simpa [heq] using h
    rcases (hhere e (by simp)).2 with rfl | hn
    · rfl
    · exact absurd hd hn

theorem lowerFrom_ne_nil {s before : List Char} (h : s ≠ []) : lowerFrom before s ≠ [] := by
  cases s with
  | nil => exact absurd rfl h
  | cons c s =>
    obtain ⟨here, heq, hne, -⟩ := lowerFrom_cons before c s
    rw [heq]
    simp [hne]

/-- **A text in lower case is its own lower case.** -/
theorem lower_lower (s : String) : lower (lower s) = lower s := by
  unfold lower
  rw [String.toList_ofList, lowerFrom_of_settled fun c hc => settled_of_mem_lowerFrom hc]

end SshTunnel.Text

import SshTunnel.Proofs.Text.Lower

/-!
Lower case within ASCII.  A text of ASCII is lowered letter by letter, without a look at its neighbours.  Other
texts have a lower case that is not ASCII, unless they hold the Kelvin sign, which becomes a `k`; so a lower case
that is ASCII without a `k` is that of an ASCII text.
-/

namespace SshTunnel.Text

/-! ### Letters -/

/-- The runs that lower to ASCII are those of its capitals and of the Kelvin sign. -/
theorem lowerRuns_to_ascii : ∀ r ∈ lowerRuns, r.lowered < 128 →
    r.last < 128 ∨ r.first = 0x212A ∧ r.last = 0x212A ∧ r.lowered = 0x6B := by decide +kernel

theorem lowerChar_of_ascii {c : Char} (h : c.toNat < 128) : lowerChar c = [c.toLower] := by
  have hall : ∀ n < 128, lowerChar (Char.ofNat n) = [(Char.ofNat n).toLower] := by decide +kernel
  have hc := hall c.toNat h
  rwa [Char.ofNat_toNat] at hc

theorem ascii_of_lowerChar {c : Char} (h : ∀ d ∈ lowerChar c, d.toNat < 128 ∧ d ≠ 'k') : c.toNat < 128 := by
  unfold lowerChar at h
  by_cases hi : c.toNat = 0x130
  · -- the dot that is left over is not ASCII
    rw [if_pos hi] at h
    exact absurd (h (Char.ofNat 0x307) (by simp)).1 (by decide)
  · rw [if_neg hi] at h
    cases hf : lowerRuns.find? fun r => r.covers c.toNat with
    | none => exact (h c (by simp [hf])).1
    | some r =>
      have hr := List.mem_of_find?_eq_some hf
      have hc : r.covers c.toNat := by simpa using List.find?_some hf
      have hd := h (Char.ofNat (r.lowered + (c.toNat - r.first))) (by simp [hf])
      rw [toNat_ofNat_lowered hr hc] at hd
      simp only [CaseRun.covers, Bool.and_eq_true, decide_eq_true_eq] at hc
      rcases lowerRuns_to_ascii r hr (by omega) with hlast | ⟨hfirst, hlast, hk⟩
      · omega
      · refine absurd ?_ hd.2
        rw [hk, show c.toNat - r.first = 0 by omega]

theorem toNat_toLower (c : Char) :
    c.toLower.toNat = if 65 ≤ c.toNat ∧ c.toNat ≤ 90 then c.toNat + 32 else c.toNat := by
  have hv : c.val.toNat = c.toNat := rfl
  by_cases h : 65 ≤ c.toNat ∧ c.toNat ≤ 90
  · have hc : c.val ≥ 'A'.val ∧ c.val ≤ 'Z'.val := h
    have hlow : c.toLower.toNat = (c.val + 32).toNat := congrArg Char.toNat (dif_pos hc)
    rw [hlow, if_pos h, UInt32.toNat_add, hv, show (32 : UInt32).toNat = 32 from rfl]
    omega
  · have hc : ¬ (c.val ≥ 'A'.val ∧ c.val ≤ 'Z'.val) := h
    have hsame : c.toLower = c := dif_neg hc
    rw [hsame, if_neg h]

theorem ascii_of_toLower {c : Char} (h : c.toLower.toNat < 128) : c.toNat < 128 := by
  rw [toNat_toLower] at h
  split at h <;> omega

/-- A small letter of ASCII is the lower case of itself and of its capital alone. -/
theorem toLower_eq_iff {c small : Char} (capital : Char) (hcapital : 65 ≤ capital.toNat ∧ capital.toNat ≤ 90)
    (hsmall : small.toNat = capital.toNat + 32) : c.toLower = small ↔ c ∈ [small, capital] := by
  rw [List.mem_cons, List.mem_singleton, ← Char.toNat_inj, ← Char.toNat_inj, ← Char.toNat_inj, toNat_toLower]
  split <;> omega

/-! ### Texts -/

theorem lowerFrom_of_ascii : ∀ {s before : List Char}, (∀ c ∈ s, c.toNat < 128) →
    lowerFrom before s = s.map Char.toLower
  | [], _, _ => rfl
  | c :: s, before, h => by
    have hc : c.toNat < 128 := h c (List.mem_cons_self ..)
    have hsigma : c ≠ 'Σ' := by
      rintro rfl
      exact absurd hc (by decide)
    rw [lowerFrom, lowerFrom_of_ascii fun d hd => h d (List.mem_cons_of_mem _ hd)]
    simp [hsigma, lowerChar_of_ascii hc]

theorem ascii_of_lowerFrom : ∀ {s before : List Char},
    (∀ d ∈ lowerFrom before s, d.toNat < 128 ∧ d ≠ 'k') → ∀ c ∈ s, c.toNat < 128
  | [], _, _ => by simp
  | c :: s, before, h => by
    rw [lowerFrom] at h
    have hs := ascii_of_lowerFrom fun d hd => h d (List.mem_append_right _ hd)
    refine List.forall_mem_cons.2 ⟨?_, hs⟩
    by_cases hsigma : c = 'Σ'
    · -- both forms of the small sigma are Greek
      rw [if_pos hsigma] at h
      split at h
      · exact absurd (h 'ς' (by simp)).1 (by decide)
      · exact absurd (h 'σ' (by simp)).1 (by decide)
    · rw [if_neg hsigma] at h
      exact ascii_of_lowerChar fun d hd => h d (List.mem_append_left _ hd)

/-- **Only other ASCII spellings of a text have it as their lower case**, if it is ASCII without a `k`. -/
theorem lowerFrom_eq_iff {s t : List Char} (before : List Char) (ht : ∀ d ∈ t, d.toNat < 128 ∧ d ≠ 'k') :
    lowerFrom before s = t ↔ s.map Char.toLower = t := by
  constructor
  · intro h
    have hs : ∀ c ∈ s, c.toNat < 128 := ascii_of_lowerFrom (h ▸ ht)
    rwa [lowerFrom_of_ascii hs] at h
  · intro h
    have hs : ∀ c ∈ s, c.toNat < 128 := fun c hc => ascii_of_toLower (ht _ (h ▸ List.mem_map_of_mem hc)).1
    rw [lowerFrom_of_ascii hs, h]

/-- The `k` has a spelling outside ASCII. -/
example : lowerFrom [] ['o', '\u212a'] = ['o', 'k'] := by decide +kernel

end SshTunnel.Text

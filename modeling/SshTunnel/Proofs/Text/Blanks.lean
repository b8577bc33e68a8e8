import Mathlib.Data.List.TakeWhile
import SshTunnel.Proofs.Text.Pieces

/-!
Blanks around a text.  They make no words, and trimming drops them, so a text has the same words whether it is
trimmed or not, and what is left of it begins with its first character that is not blank.
-/

namespace SshTunnel.Text

variable {b s : List Char}

theorem words_blanks (hb : ∀ c ∈ b, isBlank c) : words b = [] := by
  induction b with
  | nil => rfl
  | cons x b ih =>
    have hsplit := words_append_blank [] (hb x (List.mem_cons_self ..)) b
    rw [List.nil_append] at hsplit
    rw [hsplit, ih fun c hc => hb c (List.mem_cons_of_mem _ hc)]
    rfl

/-- Blanks between two texts keep their words apart. -/
theorem words_append_blanks (hb : ∀ c ∈ b, isBlank c) (hne : b ≠ []) (a t : List Char) :
    words (a ++ b ++ t) = words a ++ words t := by
  induction b generalizing a with
  | nil => exact absurd rfl hne
  | cons x b ih =>
    have hx : isBlank x := hb x (List.mem_cons_self ..)
    have hrest : ∀ c ∈ b, isBlank c := fun c hc => hb c (List.mem_cons_of_mem _ hc)
    rw [List.append_assoc, List.cons_append, words_append_blank a hx]
    by_cases hnil : b = []
    · rw [hnil, List.nil_append]
    · have htail := ih hrest hnil []
      rw [List.nil_append] at htail
      rw [htail, words_blanks fun c hc => absurd hc List.not_mem_nil, List.nil_append]

theorem words_blanks_append (hb : ∀ c ∈ b, isBlank c) (s : List Char) : words (b ++ s) = words s := by
  by_cases hne : b = []
  · rw [hne, List.nil_append]
  · have := words_append_blanks hb hne [] s
    rwa [List.nil_append, words_blanks fun c hc => absurd hc List.not_mem_nil, List.nil_append] at this

theorem words_append_blanks_end (hb : ∀ c ∈ b, isBlank c) (s : List Char) : words (s ++ b) = words s := by
  by_cases hne : b = []
  · rw [hne, List.append_nil]
  · have := words_append_blanks hb hne s []
    rwa [List.append_nil, words_blanks fun c hc => absurd hc List.not_mem_nil, List.append_nil] at this

/-! ### Trimming -/

/-- Trimming drops blanks alone. -/
theorem exists_blanks_trim (s : List Char) :
    ∃ before after, s = before ++ trim s ++ after ∧ (∀ c ∈ before, isBlank c) ∧ ∀ c ∈ after, isBlank c := by
  refine ⟨s.takeWhile isBlank, ((trimStart s).reverse.takeWhile isBlank).reverse, ?_,
    fun c hc => List.mem_takeWhile_imp hc, fun c hc => List.mem_takeWhile_imp (List.mem_reverse.1 hc)⟩
  rw [trim, trimEnd, List.append_assoc, ← List.reverse_append, List.takeWhile_append_dropWhile,
    List.reverse_reverse, trimStart, List.takeWhile_append_dropWhile]

@[simp] theorem words_trim (s : List Char) : words (trim s) = words s := by
  obtain ⟨before, after, hs, hbefore, hafter⟩ := exists_blanks_trim s
  conv_rhs => rw [hs, words_append_blanks_end hafter, words_blanks_append hbefore]

theorem trimStart_append_of_blanks (hb : ∀ c ∈ b, isBlank c) (s : List Char) :
    trimStart (b ++ s) = trimStart s := List.dropWhile_append_of_pos hb

theorem trim_blanks (hb : ∀ c ∈ b, isBlank c) : trim b = [] := by
  have h := trimStart_append_of_blanks hb []
  rw [List.append_nil] at h
  rw [trim, h]
  rfl

/-- Nothing is dropped before the first character that is not blank. -/
theorem head?_trim {c : Char} (hb : ∀ c ∈ b, isBlank c) (hc : isBlank c = false) (s : List Char) :
    (trim (b ++ c :: s)).head? = some c := by
  have hend : [c].dropWhile isBlank = [c] := by simp [hc]
  rw [trim, trimStart_append_of_blanks hb, trimStart_of_head hc, trimEnd, List.reverse_cons,
    List.dropWhile_append, hend]
  split <;> simp

theorem trimEnd_append_of_blanks (hb : ∀ c ∈ b, isBlank c) (s : List Char) : trimEnd (s ++ b) = trimEnd s := by
  rw [trimEnd, List.reverse_append, List.dropWhile_append_of_pos fun c hc => hb c (List.mem_reverse.1 hc), trimEnd]

/-- **A text is trimmed to a word exactly if it is the word with blanks around it.** -/
theorem trim_eq_word_iff {w : List Char} (h : IsWord w) :
    trim s = w ↔
      ∃ before after, s = before ++ w ++ after ∧ (∀ c ∈ before, isBlank c) ∧ ∀ c ∈ after, isBlank c := by
  constructor
  · rintro rfl
    exact exists_blanks_trim s
  · rintro ⟨before, after, rfl, hbefore, hafter⟩
    rw [trim, List.append_assoc, trimStart_append_of_blanks hbefore, h.trimStart_append,
      trimEnd_append_of_blanks hafter]
    exact h.trimEnd_append []

end SshTunnel.Text

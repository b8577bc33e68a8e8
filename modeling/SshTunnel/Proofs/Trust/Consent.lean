import SshTunnel.Proofs.Text.Ascii
import SshTunnel.Proofs.Text.Blanks
import SshTunnel.Trust.Consent

/-!
What is taken for a yes on the terminal.  One line is read, and it has to be the word or its first letter, in any
case and with blanks around it; since lower case is taken by the whole of Unicode, it has to be shown that no
other letter passes for one of these.
-/

namespace SshTunnel.Consent

open Text (isBlank IsWord)

/-! ### The line that is read -/

/-- Bytes that are typed, and those of them up to and including the first line end, or all if there is none. -/
inductive FirstLine : Bytes → Bytes → Prop
  | ended (line rest : Bytes) : 10 ∉ line → FirstLine (line ++ 10 :: rest) (line ++ [10])
  | unended (line : Bytes) : 10 ∉ line → FirstLine line line

theorem FirstLine.cons {b : UInt8} {input line : Bytes} (hb : b ≠ 10) (h : FirstLine input line) :
    FirstLine (b :: input) (b :: line) := by
  have hcons : ∀ {l : Bytes}, 10 ∉ l → 10 ∉ b :: l := fun hl => List.not_mem_cons_of_ne_of_not_mem hb.symm hl
  cases h with
  | ended line rest hline => exact .ended (b :: line) rest (hcons hline)
  | unended _ hline => exact .unended _ (hcons hline)

theorem firstLine_firstLine : ∀ input : Bytes, FirstLine input (firstLine input)
  | [] => .unended [] List.not_mem_nil
  | b :: bs => by
    rw [firstLine]
    split
    · rename_i hb
      exact hb ▸ .ended [] bs List.not_mem_nil
    · rename_i hb
      exact (firstLine_firstLine bs).cons hb

theorem firstLine_append {line : Bytes} (h : 10 ∉ line) (bs : Bytes) :
    firstLine (line ++ bs) = line ++ firstLine bs := by
  induction line with
  | nil => rfl
  | cons b line ih =>
    obtain ⟨hb, hline⟩ := not_or.1 (mt List.mem_cons.2 h)
    rw [List.cons_append, firstLine, if_neg fun heq => hb heq.symm, ih hline, List.cons_append]

theorem firstLine_eq_iff {input line : Bytes} : firstLine input = line ↔ FirstLine input line := by
  constructor
  · rintro rfl
    exact firstLine_firstLine input
  · intro h
    cases h with
    | ended line rest hline => rw [firstLine_append hline, firstLine, if_pos rfl]
    | unended _ hline => simpa [firstLine] using firstLine_append hline []

/-! ### What it says -/

/-- The word for consent or its first letter, each letter small or capital. -/
inductive IsConsent : List Char → Prop
  | letter {y : Char} : y ∈ ['y', 'Y'] → IsConsent [y]
  | word {y e s : Char} : y ∈ ['y', 'Y'] → e ∈ ['e', 'E'] → s ∈ ['s', 'S'] → IsConsent [y, e, s]

/-- Consent with blanks around it and nothing else. -/
inductive ClearYes : List Char → Prop
  | intro {before word after : List Char} : (∀ c ∈ before, isBlank c) → IsConsent word →
      (∀ c ∈ after, isBlank c) → ClearYes (before ++ word ++ after)

theorem isConsent_iff {w : List Char} :
    IsConsent w ↔ w.map Char.toLower = ['y', 'e', 's'] ∨ w.map Char.toLower = ['y'] := by
  have hy : ∀ c : Char, c.toLower = 'y' ↔ c ∈ ['y', 'Y'] := fun _ => Text.toLower_eq_iff 'Y' (by decide) rfl
  have he : ∀ c : Char, c.toLower = 'e' ↔ c ∈ ['e', 'E'] := fun _ => Text.toLower_eq_iff 'E' (by decide) rfl
  have hs : ∀ c : Char, c.toLower = 's' ↔ c ∈ ['s', 'S'] := fun _ => Text.toLower_eq_iff 'S' (by decide) rfl
  constructor
  · intro h
    cases h with
    | letter first =>
      right
      rw [List.map_singleton, (hy _).2 first]
    | word first second third =>
      left
      rw [List.map_cons, List.map_cons, List.map_singleton, (hy _).2 first, (he _).2 second, (hs _).2 third]
  · rintro (h | h)
    · obtain ⟨y, w, rfl, hy', h⟩ := List.map_eq_cons_iff.1 h
      obtain ⟨e, w, rfl, he', h⟩ := List.map_eq_cons_iff.1 h
      obtain ⟨s, rfl, hs'⟩ := List.map_eq_singleton_iff.1 h
      exact .word ((hy y).1 hy') ((he e).1 he') ((hs s).1 hs')
    · obtain ⟨y, rfl, hy'⟩ := List.map_eq_singleton_iff.1 h
      exact .letter ((hy y).1 hy')

theorem IsConsent.letters {w : List Char} (h : IsConsent w) : ∀ c ∈ w, c ∈ ['y', 'Y', 'e', 'E', 's', 'S'] := by
  intro c hc
  cases h with
  | letter first => grind
  | word first second third => grind

theorem IsConsent.isWord {w : List Char} (h : IsConsent w) : IsWord w := by
  have hblank : ∀ c ∈ ['y', 'Y', 'e', 'E', 's', 'S'], isBlank c = false := by simp [isBlank]
  refine ⟨?_, fun c hc => hblank c (h.letters c hc)⟩
  rintro rfl
  cases h

theorem isYes_iff (line : String) : isYes line = true ↔ ClearYes line.toList := by
  have hlower : isYes line = true ↔ IsConsent (Text.trim line.toList) := by
    rw [isConsent_iff, ← Text.lowerFrom_eq_iff [] (by simp), ← Text.lowerFrom_eq_iff [] (by simp)]
    simp [isYes, Text.lower, ← String.toList_inj]
  rw [hlower]
  constructor
  · intro h
    obtain ⟨before, after, hline, hbefore, hafter⟩ := Text.exists_blanks_trim line.toList
    rw [hline]
    exact .intro hbefore h hafter
  · intro h
    generalize line.toList = chars at h
    cases h with
    | @intro before word after hbefore hword hafter =>
      rwa [(Text.trim_eq_word_iff hword.isWord).2 ⟨before, after, rfl, hbefore, hafter⟩]

theorem ClearYes.letters {chars : List Char} (h : ClearYes chars) :
    ∀ c ∈ chars, isBlank c ∨ c ∈ ['y', 'Y', 'e', 'E', 's', 'S'] := by
  cases h with
  | intro hbefore hword hafter =>
    simp only [List.mem_append]
    rintro c ((hc | hc) | hc)
    · exact .inl (hbefore c hc)
    · exact .inr (hword.letters c hc)
    · exact .inl (hafter c hc)

theorem answer_eq {input : Bytes} {line : String} (h : FirstLine input (Text.encode line)) :
    answer input = isYes line := by
  rw [answer, firstLine_eq_iff.2 h, Text.decode?_encode]

/-- **Only a clear yes is a yes**: who is asked has consented exactly if the first line is UTF-8 and a clear yes,
and then there is nothing on it but blanks and these six letters. -/
theorem ask_iff_clearYes (input : Bytes) :
    (Consent.ask.decide input = true ↔
        ∃ line : String, FirstLine input (Text.encode line) ∧ ClearYes line.toList) ∧
      ∀ line : String, FirstLine input (Text.encode line) → Consent.ask.decide input = true →
        ∀ c ∈ line.toList, isBlank c ∨ c ∈ ['y', 'Y', 'e', 'E', 's', 'S'] := by
  have hask : Consent.ask.decide input = answer input := rfl
  rw [hask]
  refine ⟨⟨fun hyes => ?_, ?_⟩, fun line hline hyes => ?_⟩
  · cases hline : Text.decode? (firstLine input) with
    | none => simp [answer, hline] at hyes
    | some line =>
      have hfirst := firstLine_eq_iff.1 (Text.decode?_eq_some_iff.1 hline).symm
      rw [answer_eq hfirst] at hyes
      exact ⟨line, hfirst, (isYes_iff line).1 hyes⟩
  · rintro ⟨line, hline, hclear⟩
    rw [answer_eq hline]
    exact (isYes_iff line).2 hclear
  · rw [answer_eq hline] at hyes
    exact ((isYes_iff line).1 hyes).letters

/-- Small and capital letters, a wide blank behind them, and one more line that is not read. -/
theorem ask_iff_clearYes_mixedCase :
    FirstLine (Text.encode " YeS\u3000\nno\n") (Text.encode " YeS\u3000\n") ∧
      Consent.ask.decide (Text.encode " YeS\u3000\nno\n") = true ∧
      ∀ c ∈ " YeS\u3000\n".toList, isBlank c ∨ c ∈ ['y', 'Y', 'e', 'E', 's', 'S'] := by
  have hfirst : FirstLine (Text.encode " YeS\u3000\nno\n") (Text.encode " YeS\u3000\n") :=
    firstLine_eq_iff.1 (by decide +kernel)
  have hyes : Consent.ask.decide (Text.encode " YeS\u3000\nno\n") = true := by decide +kernel
  exact ⟨hfirst, hyes, (ask_iff_clearYes _).2 _ hfirst hyes⟩

/-- A long s is no s. -/
example : Consent.ask.decide (Text.encode "ye\u017f\n") = false := by decide +kernel

end SshTunnel.Consent

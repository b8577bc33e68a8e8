import Mathlib.Tactic.Common
import SshTunnel.Text.Blank
import SshTunnel.Text.Utf8

/-!
Cutting texts and bytes into pieces.  Where a separator stands, the pieces of the two sides follow each other;
the lines of some bytes are the bytes of the lines of their text.
-/

namespace SshTunnel.Text

section Pieces

variable {α : Type} {p : α → Bool}

/-! ### Pieces -/

theorem pieces_cons_sep {a : α} (ha : p a) (s : List α) : pieces p (a :: s) = [] :: pieces p s := by
  rw [pieces, if_pos ha]

theorem pieces_append_sep {x : α} (hx : p x) : ∀ a b : List α,
    pieces p (a ++ x :: b) = pieces p a ++ pieces p b
  | [], b => pieces_cons_sep hx b
  | c :: a, b => by
    have ih := pieces_append_sep hx a b
    by_cases hc : p c
    · rw [List.cons_append, pieces_cons_sep hc, pieces_cons_sep hc, ih, List.cons_append]
    · rw [List.cons_append, pieces, if_neg hc, ih, pieces, if_neg hc]
      cases hw : pieces p a with
      | nil => exact absurd hw (pieces_ne_nil p a)
      | cons w ws => rfl

theorem pieces_of_all_not : ∀ {s : List α}, (∀ a ∈ s, p a = false) → pieces p s = [s]
  | [], _ => rfl
  | a :: s, h => by
    have ha : p a = false := h a (by simp)
    rw [pieces, ha, pieces_of_all_not fun b hb => h b (List.mem_cons_of_mem _ hb)]
    simp

/-- What comes in front without a separator belongs to the first piece. -/
theorem pieces_append_of_not {s t : List α} (h : ∀ a ∈ s, p a = false) :
    pieces p (s ++ t) = (pieces p t).modifyHead (s ++ ·) := by
  induction s with
  | nil =>
    cases hw : pieces p t with
    | nil => exact absurd hw (pieces_ne_nil p t)
    | cons w ws => simp [hw]
  | cons a s ih =>
    have ha : p a = false := h a (by simp)
    rw [List.cons_append, pieces, ha, ih fun b hb => h b (List.mem_cons_of_mem _ hb)]
    cases hw : pieces p t with
    | nil => exact absurd hw (pieces_ne_nil p t)
    | cons w ws => simp

/-- What stands before and behind the last separator. -/
theorem append_sep_inj {x : α} {a b c d : List α} (hc : x ∉ c) (hd : x ∉ d)
    (h : a ++ x :: c = b ++ x :: d) : a = b ∧ c = d := by
  rcases List.append_eq_append_iff.1 h with ⟨m, rfl, hm⟩ | ⟨m, rfl, hm⟩
  · cases m with
    | nil => exact ⟨by simp, (List.cons.inj hm).2⟩
    | cons y m => exact absurd ((List.cons.inj hm).2 ▸ List.mem_append_right m (List.mem_cons_self ..)) hc
  · cases m with
    | nil => exact ⟨by simp, (List.cons.inj hm).2.symm⟩
    | cons y m => exact absurd ((List.cons.inj hm).2 ▸ List.mem_append_right m (List.mem_cons_self ..)) hd

end Pieces

/-! ### Words -/

/-- A text without blanks that is not empty. -/
def IsWord (s : List Char) : Prop := s ≠ [] ∧ ∀ c ∈ s, isBlank c = false

theorem IsWord.words {s : List Char} (h : IsWord s) : words s = [s] := by
  rw [Text.words, pieces_of_all_not h.2]
  simpa using h.1

theorem words_append_blank (a : List Char) {x : Char} (hx : isBlank x) (b : List Char) :
    words (a ++ x :: b) = words a ++ words b := by
  rw [words, pieces_append_sep hx, List.filter_append]
  rfl

theorem trimStart_of_head {c : Char} (h : isBlank c = false) (s : List Char) :
    trimStart (c :: s) = c :: s := by
  simp [trimStart, h]

theorem IsWord.trimStart_append {w : List Char} (h : IsWord w) (s : List Char) :
    trimStart (w ++ s) = w ++ s := by
  obtain ⟨c, w, rfl⟩ := List.exists_cons_of_ne_nil h.1
  exact trimStart_of_head (h.2 c (List.mem_cons_self ..)) (w ++ s)

theorem IsWord.trimEnd_append {w : List Char} (h : IsWord w) (s : List Char) : trimEnd (s ++ w) = s ++ w := by
  have hreverse : IsWord w.reverse := ⟨List.reverse_ne_nil_iff.2 h.1, fun c hc => h.2 c (List.mem_reverse.1 hc)⟩
  have hstart : (w.reverse ++ s.reverse).dropWhile isBlank = w.reverse ++ s.reverse :=
    hreverse.trimStart_append s.reverse
  rw [trimEnd, List.reverse_append, hstart, List.reverse_append, List.reverse_reverse, List.reverse_reverse]

/-- There is nothing to trim from a text that begins and ends with a word. -/
theorem trim_of_words {a b : List Char} (ha : IsWord a) (hb : IsWord b) (m : List Char) :
    trim (a ++ m ++ b) = a ++ m ++ b := by
  have hstart : trimStart (a ++ m ++ b) = a ++ m ++ b := by
    rw [List.append_assoc]
    exact ha.trimStart_append (m ++ b)
  rw [trim, hstart, hb.trimEnd_append]

/-! ### Bytes of a text -/

theorem encode_ofList_cons (c : Char) (cs : List Char) :
    encode (String.ofList (c :: cs)) = String.utf8EncodeChar c ++ encode (String.ofList cs) := by
  simp only [encode, String.toByteArray_ofList]
  rw [List.utf8Encode_cons, List.utf8Encode_singleton]
  simp

theorem encode_newline : String.utf8EncodeChar '\n' = [10] := by decide

/-- Only a line end is encoded with the byte of a line end. -/
theorem ne_newline_of_mem_utf8EncodeChar {c : Char} (hc : c ≠ '\n') {b : UInt8}
    (hb : b ∈ String.utf8EncodeChar c) : b ≠ 10 := by
  rintro rfl
  have hv : c.val.toNat ≠ 10 := by
    intro h
    exact hc (Char.ext (UInt32.toNat_inj.1 h))
  have key : ∀ n : Nat, 10 = UInt8.ofNat n → n % 256 = 10 := fun n h => by
    simpa using (congrArg UInt8.toNat h).symm
  unfold String.utf8EncodeChar at hb
  dsimp only at hb
  split at hb
  · have h := key _ (List.mem_singleton.1 hb)
    omega
  · -- in a longer encoding every byte is 128 at least
    split at hb
    · simp only [List.mem_cons, List.not_mem_nil, or_false] at hb
      rcases hb with h | h
      all_goals
        have := key _ h
        omega
    · split at hb
      · simp only [List.mem_cons, List.not_mem_nil, or_false] at hb
        rcases hb with h | h | h
        all_goals
          have := key _ h
          omega
      · simp only [List.mem_cons, List.not_mem_nil, or_false] at hb
        rcases hb with h | h | h | h
        all_goals
          have := key _ h
          omega

/-- **The lines of the bytes of a text are the bytes of its lines.** -/
theorem pieces_encode : ∀ cs : List Char,
    pieces (· = 10) (encode (String.ofList cs)) =
      (pieces (· = '\n') cs).map fun l => encode (String.ofList l)
  | [] => by simp [pieces, encode]
  | c :: cs => by
    have ih := pieces_encode cs
    rw [encode_ofList_cons]
    by_cases hc : c = '\n'
    · subst hc
      rw [encode_newline, List.singleton_append, pieces_cons_sep (by decide), ih,
        pieces_cons_sep (by decide)]
      simp [encode]
    · have hn : ∀ b ∈ String.utf8EncodeChar c, decide (b = 10) = false := fun b hb => by
        simpa using ne_newline_of_mem_utf8EncodeChar hc hb
      rw [pieces_append_of_not hn, ih, pieces, if_neg (by simpa using hc)]
      cases hw : pieces (· = '\n') cs with
      | nil => exact absurd hw (pieces_ne_nil _ cs)
      | cons w ws => simp only [List.map_cons, List.modifyHead_cons, encode_ofList_cons]

end SshTunnel.Text

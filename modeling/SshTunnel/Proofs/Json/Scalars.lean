import Mathlib.Tactic.Common
import SshTunnel.Json.Reader
import SshTunnel.Json.Writer

/-!
What is written is read again.  A value may stand before a comma, before a closing bracket or at the end of the
text; the reader of its type gets it back from its text and leaves what follows.
-/

namespace SshTunnel.Json

variable {α : Type}

/-- Nothing in front of which a value could go on. -/
def Closed (rest : List Char) : Prop := ∀ c ∈ rest.head?, c = ',' ∨ c = ']' ∨ c = '\x7d'

/-- The reader gets `a` back from the text of `v`. -/
def Rereads (read : Reader α) (v : Json) (a : α) : Prop :=
  ∀ rest, Closed rest → read (v.chars ++ rest) = .ok (a, rest)

theorem closed_nil : Closed [] := by simp [Closed]

/-- Nothing in front of which a number could go on: the same, or a gap. -/
def Ended (rest : List Char) : Prop := ∀ c ∈ rest.head?, c = ',' ∨ c = ']' ∨ c = '\x7d' ∨ isGap c = true

theorem Closed.ended {rest : List Char} (h : Closed rest) : Ended rest := by
  intro c hc
  rcases h c hc with h | h | h
  · exact Or.inl h
  · exact Or.inr (Or.inl h)
  · exact Or.inr (Or.inr (Or.inl h))

theorem Ended.ne {rest : List Char} (h : Ended rest) :
    ∀ c ∈ rest.head?, isDigit c = false ∧ c ≠ '.' ∧ c ≠ 'e' ∧ c ≠ 'E' := by
  intro c hc
  have hcases : c = ',' ∨ c = ']' ∨ c = '\x7d' ∨ c = ' ' ∨ c = '\n' ∨ c = '\t' ∨ c = '\r' := by
    simpa [isGap, or_assoc] using h c hc
  rcases hcases with rfl | rfl | rfl | rfl | rfl | rfl | rfl
  all_goals decide

theorem skipGap_of_head {c : Char} (h : isGap c = false) (s : List Char) : skipGap (c :: s) = c :: s := by
  simp [skipGap, List.dropWhile, h]

theorem readName_append (w rest : List Char) : readName w (w ++ rest) = .ok rest := by
  induction w with
  | nil => rfl
  | cons c w ih => simpa [readName] using ih

/-! ### Strings -/

theorem hexValue?_hexDigit : ∀ n < 16, hexValue? (hexDigit n) = some n := by decide

/-- A control keeps its number through its escape. -/
theorem unit?_control {n : Nat} (h : n < 0x20) : unit? '0' '0' (hexDigit (n / 16)) (hexDigit (n % 16)) = some n := by
  have hzero : hexValue? '0' = some 0 := by decide
  rw [unit?, hzero, hexValue?_hexDigit _ (by omega), hexValue?_hexDigit _ (by omega)]
  simp only [Option.some.injEq]
  omega

/-- A control is no half of a pair, so its unit stands for it alone. -/
theorem not_half_of_control {n : Nat} (h : n < 0x20) : isLowUnit n = false ∧ isHighUnit n = false := by
  constructor
  · simp [isLowUnit]
    omega
  · simp [isHighUnit]
    omega

/-- No escape of one character begins like that of a code unit. -/
theorem ne_u_of_escaped {c e : Char} (h : escaped? e = some c) : e ≠ 'u' := by
  rintro rfl
  simp [escaped?] at h

theorem readText_escaped {c e : Char} (h : escaped? e = some c) (s : List Char) :
    readText ('\\' :: e :: s) = consChar c (readText s) := by
  rw [readText.eq_def]
  simp [h, ne_u_of_escaped h]

theorem readText_control {c : Char} (h : c.toNat < 0x20) (s : List Char) :
    readText ('\\' :: 'u' :: '0' :: '0' :: hexDigit (c.toNat / 16) :: hexDigit (c.toNat % 16) :: s) =
      consChar c (readText s) := by
  obtain ⟨hlow, hhigh⟩ := not_half_of_control h
  rw [readText.eq_def]
  simp [unit?_control h, hlow, hhigh, Char.ofNat_toNat]

theorem readText_plain {c : Char} (hquote : c ≠ '"') (hslash : c ≠ '\\') (h : ¬ c.toNat < 0x20) (s : List Char) :
    readText (c :: s) = consChar c (readText s) := by
  rw [readText.eq_def]
  simp [hquote, hslash, h]

/-- A character is written as an escape of its own, as the unit of a control, or as itself. -/
theorem charText_cases (c : Char) :
    (∃ e, escaped? e = some c ∧ charText c = ['\\', e]) ∨
      (c.toNat < 0x20 ∧
        charText c = ['\\', 'u', '0', '0', hexDigit (c.toNat / 16), hexDigit (c.toNat % 16)]) ∨
      (c ≠ '"' ∧ c ≠ '\\' ∧ ¬ c.toNat < 0x20 ∧ charText c = [c]) := by
  unfold charText
  split
  · rename_i h
    rcases h with rfl | rfl
    · exact Or.inl ⟨_, by decide, rfl⟩
    · exact Or.inl ⟨_, by decide, rfl⟩
  rename_i hplain
  obtain ⟨hquote, hslash⟩ := not_or.1 hplain
  -- the five controls that have a letter of their own, in the order of the writer
  split
  · subst c
    exact Or.inl ⟨_, by decide, rfl⟩
  split
  · subst c
    exact Or.inl ⟨_, by decide, rfl⟩
  split
  · subst c
    exact Or.inl ⟨_, by decide, rfl⟩
  split
  · subst c
    exact Or.inl ⟨_, by decide, rfl⟩
  split
  · subst c
    exact Or.inl ⟨_, by decide, rfl⟩
  split
  · rename_i h
    exact Or.inr (Or.inl ⟨h, rfl⟩)
  · rename_i h
    exact Or.inr (Or.inr ⟨hquote, hslash, h, rfl⟩)

theorem readText_charText (c : Char) (s : List Char) : readText (charText c ++ s) = consChar c (readText s) := by
  obtain ⟨e, stands, h⟩ | ⟨hcontrol, h⟩ | ⟨hquote, hslash, hcontrol, h⟩ := charText_cases c
  · rw [h]
    exact readText_escaped stands s
  · rw [h]
    exact readText_control hcontrol s
  · rw [h]
    exact readText_plain hquote hslash hcontrol s

theorem readText_quote (rest : List Char) : readText ('"' :: rest) = .ok ([], rest) := by
  rw [readText.eq_def]
  simp

theorem readText_flatMap (cs rest : List Char) : readText (cs.flatMap charText ++ '"' :: rest) = .ok (cs, rest) := by
  induction cs with
  | nil => exact readText_quote rest
  | cons c cs ih => rw [List.flatMap_cons, List.append_assoc, readText_charText, ih, consChar]

theorem stringText_append (s : String) (rest : List Char) :
    stringText s ++ rest = '"' :: (s.toList.flatMap charText ++ '"' :: rest) := by
  simp [stringText]

theorem rereads_string (s : String) : Rereads readString (.string s) s := by
  intro rest _
  rw [chars, stringText_append, readString, skipGap_of_head (by decide)]
  simp [readText_flatMap, Except.map]

/-! ### Numbers -/

theorem isDigit_eq (c : Char) : isDigit c = c.isDigit := by
  simp [isDigit, Char.isDigit, Char.le_def]

theorem isDigit_of_mem_toDigits {n : Nat} {c : Char} (h : c ∈ Nat.toDigits 10 n) : isDigit c = true := by
  rw [isDigit_eq]
  exact Nat.isDigit_of_mem_toDigits (by decide) (by decide) h

theorem digitValue_digitChar {n : Nat} (h : n < 10) : digitValue n.digitChar = n := by
  rw [digitValue, Nat.toNat_digitChar_of_lt_ten h]
  omega

theorem absorb_append {bound n v : Nat} {s : List Char} (h : absorb bound n s = (v, s.length)) (t : List Char) :
    absorb bound n (s ++ t) = ((absorb bound v t).1, s.length + (absorb bound v t).2) := by
  induction s generalizing n with
  | nil =>
    obtain rfl : n = v := (Prod.mk.inj h).1
    simp
  | cons c s ih =>
    simp only [absorb, List.length_cons] at h
    split at h
    · rename_i hlt
      obtain ⟨hv, hk⟩ := Prod.mk.inj h
      have hrest : absorb bound (10 * n + digitValue c) s = (v, s.length) := Prod.ext hv (by simpa using hk)
      simp only [List.cons_append, absorb, if_pos hlt, ih hrest, List.length_cons]
      congr 1
      omega
    · cases (Prod.mk.inj h).2

/-- All digits of a number below the bound are taken up. -/
theorem absorb_toDigits {bound : Nat} (n : Nat) (h : n < bound) :
    absorb bound 0 (Nat.toDigits 10 n) = (n, (Nat.toDigits 10 n).length) := by
  induction n using Nat.strongRecOn with
  | ind n ih =>
    by_cases hn : n < 10
    · rw [Nat.toDigits_of_lt_base hn]
      simp [absorb, digitValue_digitChar hn, h]
    · have hlast : absorb bound (n / 10) [(n % 10).digitChar] = (n, 1) := by
        have hvalue : 10 * (n / 10) + n % 10 = n := by omega
        simp [absorb, digitValue_digitChar (Nat.mod_lt n (by decide : 0 < 10)), hvalue, h]
      rw [Nat.toDigits_of_base_le (by decide) (Nat.not_lt.1 hn), absorb_append (ih (n / 10) (by omega) (by omega)),
        hlast, List.length_append]
      rfl

/-- Only the number zero starts with a zero. -/
theorem eq_zero_of_head? (n : Nat) (h : (Nat.toDigits 10 n).head? = some '0') : n = 0 := by
  induction n using Nat.strongRecOn with
  | ind n ih =>
    by_cases hn : n < 10
    · rw [Nat.toDigits_of_lt_base hn] at h
      have hsmall : ∀ n < 10, [n.digitChar].head? = some '0' → n = 0 := by decide
      exact hsmall n hn h
    · have hsome : (Nat.toDigits 10 (n / 10)).head?.isSome = true := by simp [Nat.toDigits_ne_nil]
      rw [Nat.toDigits_of_base_le (by decide) (Nat.not_lt.1 hn), List.head?_append, Option.or_of_isSome hsome] at h
      have hrest := ih (n / 10) (by omega) h
      omega

theorem Ended.not_isDigit {rest : List Char} (h : Ended rest) : rest.head?.any isDigit = false := by
  cases rest with
  | nil => rfl
  | cons c rest => exact (h.ne c rfl).1

/-- Digits are taken up to where they end. -/
theorem digits_append {ds rest : List Char} (hds : ∀ c ∈ ds, isDigit c = true) (h : rest.head?.any isDigit = false) :
    (ds ++ rest).takeWhile isDigit = ds ∧ (ds ++ rest).dropWhile isDigit = rest := by
  rw [List.takeWhile_append_of_pos hds, List.dropWhile_append_of_pos hds]
  cases rest with
  | nil => simp
  | cons c rest =>
    have hc : isDigit c = false := h
    simp [hc]

theorem exists_toDigits (n : Nat) : ∃ c r, Nat.toDigits 10 n = c :: r ∧ isDigit c = true := by
  cases hdigits : Nat.toDigits 10 n with
  | nil => exact absurd hdigits Nat.toDigits_ne_nil
  | cons c r => exact ⟨c, r, rfl, isDigit_of_mem_toDigits (n := n) (by rw [hdigits]; exact List.mem_cons_self)⟩

theorem readMagnitude_toDigits {n : Nat} (hn : n < UInt64.size) {rest : List Char} (h : Ended rest) :
    readMagnitude (Nat.toDigits 10 n ++ rest) = .ok (some n, rest) := by
  obtain ⟨c, r, hdigits, hc⟩ := exists_toDigits n
  obtain ⟨htake, hdrop⟩ := digits_append (fun c => isDigit_of_mem_toDigits (n := n)) h.not_isDigit
  have hall := absorb_toDigits n hn
  -- a zero in front is the whole number, so that no digit follows it
  have hzero : ¬ (c = '0' ∧ ((r ++ rest).head?.any isDigit) = true) := by
    rintro ⟨rfl, hmore⟩
    obtain rfl := eq_zero_of_head? n (by rw [hdigits]; rfl)
    obtain rfl : r = [] := (List.cons.inj hdigits).2.symm
    rw [List.nil_append, h.not_isDigit] at hmore
    cases hmore
  rw [hdigits] at htake hdrop hall ⊢
  rw [List.cons_append] at htake hdrop ⊢
  simp only [readMagnitude, hc, htake, hdrop, hall, if_neg hzero]
  cases rest with
  | nil => simp
  | cons d rest =>
    obtain ⟨-, hdot, he, hE⟩ := h.ne d rfl
    simp [hdot, he, hE]

theorem ne_minus_of_isDigit {c : Char} (h : isDigit c = true) : c ≠ '-' := by
  rintro rfl
  exact absurd h (by decide)

theorem isGap_of_isDigit {c : Char} (h : isDigit c = true) : isGap c = false := by
  cases hgap : isGap c with
  | false => rfl
  | true =>
    have hcases : c = ' ' ∨ c = '\n' ∨ c = '\t' ∨ c = '\r' := by simpa [isGap, or_assoc] using hgap
    rcases hcases with rfl | rfl | rfl | rfl
    all_goals exact absurd h (by decide)

theorem readNumber_toDigits {n : Nat} (hn : n < UInt64.size) {rest : List Char} (h : Ended rest) :
    readNumber (Nat.toDigits 10 n ++ rest) = .ok (.natural n, rest) := by
  obtain ⟨c, r, hdigits, hc⟩ := exists_toDigits n
  have hmagnitude := readMagnitude_toDigits hn h
  rw [hdigits, List.cons_append] at hmagnitude ⊢
  unfold readNumber
  split
  · rename_i heq
    exact absurd (List.cons.inj heq).1 (ne_minus_of_isDigit hc)
  · rw [hmagnitude]
    rfl

theorem readNat_toDigits {bound n : Nat} (hn : n < bound) (hbound : bound ≤ UInt64.size) {rest : List Char}
    (h : Ended rest) : readNat bound (Nat.toDigits 10 n ++ rest) = .ok (n, rest) := by
  obtain ⟨c, r, hdigits, hc⟩ := exists_toDigits n
  have hnumber := readNumber_toDigits (Nat.lt_of_lt_of_le hn hbound) h
  rw [hdigits, List.cons_append] at hnumber ⊢
  simp [readNat, skipGap_of_head (isGap_of_isDigit hc), hc, hnumber, hn]

theorem rereads_nat {bound n : Nat} (hn : n < bound) (hbound : bound ≤ UInt64.size) :
    Rereads (readNat bound) (.nat n) n := by
  intro rest h
  rw [chars]
  exact readNat_toDigits hn hbound h.ended

theorem rereads_u16 (n : UInt16) : Rereads readU16 (.nat n.toNat) n := by
  intro rest h
  have hread := rereads_nat n.toNat_lt (by decide) rest h
  simp [readU16, UInt16.size, hread, Except.map]

theorem rereads_u32 (n : UInt32) : Rereads readU32 (.nat n.toNat) n := by
  intro rest h
  have hread := rereads_nat n.toNat_lt (by decide) rest h
  simp [readU32, UInt32.size, hread, Except.map]

theorem rereads_u64 (n : UInt64) : Rereads readU64 (.nat n.toNat) n := by
  intro rest h
  have hread := rereads_nat n.toNat_lt (by decide) rest h
  simp [readU64, UInt64.size, hread, Except.map]

/-! ### Names -/

theorem rereads_bool (b : Bool) : Rereads readBool (.bool b) b := by
  intro rest _
  cases b with
  | true => simp [chars, readBool, skipGap_of_head, isGap, readName, Except.map]
  | false => simp [chars, readBool, skipGap_of_head, isGap, readName, Except.map]

/-! ### How a value starts -/

/-- A value starts with no gap, nor with what ends an array. -/
theorem exists_chars (v : Json) : ∃ c r, v.chars = c :: r ∧ isGap c = false ∧ c ≠ ']' := by
  cases v with
  | null => exact ⟨_, _, rfl, by decide, by decide⟩
  | bool b =>
    cases b with
    | true => exact ⟨_, _, rfl, by decide, by decide⟩
    | false => exact ⟨_, _, rfl, by decide, by decide⟩
  | nat n =>
    obtain ⟨c, r, hdigits, hc⟩ := exists_toDigits n
    refine ⟨c, r, hdigits, isGap_of_isDigit hc, ?_⟩
    rintro rfl
    exact absurd hc (by decide)
  | string s => exact ⟨_, _, rfl, by decide, by decide⟩
  | array items => exact ⟨_, _, rfl, by decide, by decide⟩
  | object members => exact ⟨_, _, rfl, by decide, by decide⟩

end SshTunnel.Json
